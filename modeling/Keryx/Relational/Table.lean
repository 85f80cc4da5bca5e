import Mathlib.Algebra.Order.Ring.Int
import Mathlib.Data.List.Nodup

/-! Finite tables with a primary key, a projection of the row. -/

namespace Relational

/-- Rows whose keys are pairwise distinct. -/
structure Table {κ ν : Type} (key : ν → κ) where
  rows : List ν
  unique : (rows.map key).Nodup

namespace Table
variable {κ ν : Type} {key : ν → κ}

@[ext] theorem ext {left right : Table key} (same : left.rows = right.rows) : left = right := by
  cases left; cases right; cases same; rfl

instance [DecidableEq ν] : DecidableEq (Table key) := fun left right =>
  decidable_of_iff (left.rows = right.rows) ⟨ext, congrArg rows⟩

def empty : Table key := ⟨[], List.nodup_nil⟩

def keep (table : Table key) (condition : ν → Bool) : Table key :=
  ⟨table.rows.filter condition, (List.filter_sublist.map key).nodup table.unique⟩

def revise (table : Table key) (change : ν → ν) (keeps : ∀ row, key (change row) = key row) : Table key :=
  ⟨table.rows.map change, by
    have same : (table.rows.map change).map key = table.rows.map key := by simp [keeps]
    rw [same]
    exact table.unique⟩

variable [DecidableEq κ]

def find (table : Table key) (k : κ) : Option ν := table.rows.find? (fun row => key row = k)

/-- Inserts a row in place of any row under the same key. -/
def put (table : Table key) (row : ν) : Table key where
  rows := (table.keep (fun other => key other ≠ key row)).rows ++ [row]
  unique := by
    rw [List.map_append, List.map_singleton, List.nodup_append]
    refine ⟨(table.keep _).unique, List.nodup_singleton _, ?_⟩
    rintro k member _ same rfl
    obtain ⟨other, kept, rfl⟩ := List.mem_map.mp member
    have different := of_decide_eq_true (List.mem_filter.mp kept).2
    exact different (List.mem_singleton.mp same)

/-- Rewrites the row under a key, where the rewriting leaves the key alone. -/
def update (table : Table key) (k : κ) (change : ν → ν) (keeps : ∀ row, key (change row) = key row) : Table key :=
  table.revise (fun row => if key row = k then change row else row)
    (fun row => by split <;> first | exact keeps row | rfl)

variable {table : Table key} {row : ν} {k : κ}

@[simp] theorem find_empty (k : κ) : (empty : Table key).find k = none := rfl

theorem find_key (found : table.find k = some row) : key row = k := by
  simpa using List.find?_some found

theorem find_mem (found : table.find k = some row) : row ∈ table.rows :=
  List.mem_of_find?_eq_some found

theorem find_of_mem (member : row ∈ table.rows) : table.find (key row) = some row := by
  obtain ⟨rows, unique⟩ := table
  simp only at member
  unfold find
  simp only
  induction rows with
  | nil => simp at member
  | cons head tail ih =>
    obtain ⟨absent, rest⟩ := List.nodup_cons.mp unique
    rcases List.mem_cons.mp member with rfl | later
    · simp
    · have different : key head ≠ key row := by
        intro same
        exact absent (same ▸ List.mem_map_of_mem later)
      simp only [List.find?_cons, different, decide_false]
      exact ih rest later

theorem mem_rows : row ∈ table.rows ↔ table.find (key row) = some row :=
  ⟨find_of_mem, find_mem⟩

theorem find_none : table.find k = none ↔ ∀ row ∈ table.rows, key row ≠ k := by
  simp [find]

theorem find_keep (table : Table key) (condition : ν → Bool) (k : κ) :
    (table.keep condition).find k = (table.find k).filter condition := by
  cases found : table.find k with
  | none =>
    rw [find_none] at found
    rw [Option.filter_none, find_none]
    exact fun row member => found row (List.mem_of_mem_filter member)
  | some row =>
    cases kept : condition row with
    | true =>
      rw [Option.filter_some_pos kept, ← find_key found, ← mem_rows]
      exact List.mem_filter.mpr ⟨find_mem found, kept⟩
    | false =>
      rw [Option.filter_some_neg (by simp [kept]), find_none]
      intro other member same
      obtain ⟨present, holds⟩ := List.mem_filter.mp member
      have equal := (find_of_mem present).symm.trans (same ▸ found)
      cases equal
      rw [kept] at holds
      cases holds

theorem find_keep_some {condition : ν → Bool} :
    (table.keep condition).find k = some row ↔ table.find k = some row ∧ condition row = true := by
  rw [find_keep, Option.filter_eq_some_iff]

theorem find_put (table : Table key) (row : ν) (k : κ) :
    (table.put row).find k = if k = key row then some row else table.find k := by
  split
  · rename_i same
    subst same
    exact find_of_mem (List.mem_append_right _ (List.mem_singleton_self row))
  · rename_i different
    have kept := find_keep table (fun other => key other ≠ key row) k
    have last : ([row].find? fun other => decide (key other = k)) = none := by
      simpa using fun same => different same.symm
    simp only [find, put, keep] at kept ⊢
    rw [List.find?_append, kept, last, Option.or_none]
    cases found : table.rows.find? (fun other => decide (key other = k)) with
    | none => rfl
    | some other =>
      have belongs : key other = k := by simpa using List.find?_some found
      exact Option.filter_some_pos (by simpa [belongs] using different)

theorem find_put_congr {table other : Table key} (same : ∀ k, table.find k = other.find k) (row : ν) (k : κ) :
    (table.put row).find k = (other.put row).find k := by
  rw [find_put, find_put, same]

@[simp] theorem find_put_self (table : Table key) (row : ν) : (table.put row).find (key row) = some row := by
  rw [find_put, if_pos rfl]

theorem find_put_ne (table : Table key) (row : ν) (different : k ≠ key row) :
    (table.put row).find k = table.find k := by
  rw [find_put, if_neg different]

theorem find_putAll (table other : Table key) (k : κ) :
    (other.rows.foldl put table).find k = (other.find k).or (table.find k) := by
  obtain ⟨rows, unique⟩ := other
  show (rows.foldl put table).find k = (rows.find? fun row => key row = k).or (table.find k)
  induction rows generalizing table with
  | nil => rfl
  | cons row rows ih =>
    rw [List.map_cons, List.nodup_cons] at unique
    obtain ⟨fresh, unique⟩ := unique
    rw [List.foldl_cons, ih (table.put row) unique, find_put]
    by_cases same : k = key row
    · have absent : rows.find? (fun row => key row = k) = none := by
        rw [List.find?_eq_none]
        intro other member own
        apply fresh
        rw [← same, ← of_decide_eq_true own]
        exact List.mem_map_of_mem member
      rw [if_pos same, absent, List.find?_cons_of_pos]
      · rfl
      · exact decide_eq_true same.symm
    · rw [if_neg same, List.find?_cons_of_neg]
      intro own
      exact same (of_decide_eq_true own).symm

theorem find_revise (table : Table key) (change : ν → ν) (keeps : ∀ row, key (change row) = key row) (k : κ) :
    (table.revise change keeps).find k = (table.find k).map change := by
  cases found : table.find k with
  | none =>
    rw [Option.map_none, find_none]
    rw [find_none] at found
    intro row member
    obtain ⟨before, present, rfl⟩ := List.mem_map.mp member
    rw [keeps]
    exact found before present
  | some row =>
    have rewritten : change row ∈ (table.revise change keeps).rows := List.mem_map_of_mem (find_mem found)
    have read := find_of_mem rewritten
    rwa [keeps, find_key found] at read

theorem find_update (table : Table key) (k other : κ) (change : ν → ν) (keeps : ∀ row, key (change row) = key row) :
    (table.update k change keeps).find other =
      if other = k then (table.find other).map change else table.find other := by
  rw [update, find_revise]
  cases found : table.find other with
  | none => simp
  | some row =>
    rw [Option.map_some, find_key found]
    split <;> rfl

theorem update_put (table : Table key) (row : ν) (change : ν → ν) (keeps : ∀ row, key (change row) = key row) :
    (table.put row).update (key row) change keeps = table.put (change row) := by
  apply ext
  show ((table.rows.filter (fun other => decide (key other ≠ key row))) ++ [row]).map _ =
    table.rows.filter (fun other => decide (key other ≠ key (change row))) ++ [change row]
  rw [List.map_append, List.map_singleton, if_pos rfl, keeps]
  congr 1
  rw [List.map_congr_left, List.map_id]
  intro other member
  exact if_neg (of_decide_eq_true (List.mem_filter.mp member).2)

theorem length_filter_key (found : table.find k = some row) :
    (table.rows.filter (fun other => key other = k)).length = 1 := by
  have listed : k ∈ table.rows.map key := List.mem_map.mpr ⟨row, find_mem found, find_key found⟩
  have once := List.count_eq_one_of_mem table.unique listed
  rw [List.count, List.countP_map, List.countP_eq_length_filter] at once
  exact once

theorem rows_put_new (absent : table.find (key row) = none) : (table.put row).rows = table.rows ++ [row] := by
  have all : table.rows.filter (fun other => decide (key other ≠ key row)) = table.rows :=
    List.filter_eq_self.mpr fun other member => decide_eq_true (find_none.mp absent other member)
  exact congrArg (· ++ [row]) all

theorem filter_key (table : Table key) (k : κ) :
    table.rows.filter (fun other => key other = k) = (table.find k).toList := by
  cases found : table.find k with
  | none => exact List.filter_eq_nil_iff.mpr fun row member => by simpa using find_none.mp found row member
  | some row =>
    obtain ⟨only, single⟩ := List.length_eq_one_iff.mp (length_filter_key found)
    have member : row ∈ table.rows.filter (fun other => decide (key other = k)) :=
      List.mem_filter.mpr ⟨find_mem found, decide_eq_true (find_key found)⟩
    rw [single, List.mem_singleton] at member
    rw [single, member]
    rfl

theorem countP_keep (table : Table key) (k : κ) (property : ν → Bool) :
    (table.keep (fun other => key other ≠ k)).rows.countP property + (table.find k).toList.countP property =
      table.rows.countP property := by
  have split := (List.filter_append_perm (fun other => decide (key other ≠ k)) table.rows).countP_eq property
  have sameTest : (fun other => !decide (key other ≠ k)) = fun other => decide (key other = k) := by
    funext other
    simp
  rw [List.countP_append, sameTest, filter_key] at split
  exact split

theorem length_keep (table : Table key) (k : κ) :
    (table.keep (fun other => key other ≠ k)).rows.length + (table.find k).toList.length = table.rows.length := by
  have counted := countP_keep table k fun _ => true
  rw [List.countP_true] at counted
  exact counted

theorem countP_put (table : Table key) (row : ν) (property : ν → Bool) :
    (table.put row).rows.countP property + (table.find (key row)).toList.countP property =
      table.rows.countP property + [row].countP property := by
  have kept := countP_keep table (key row) property
  show ((table.keep (fun other => key other ≠ key row)).rows ++ [row]).countP property + _ = _
  rw [List.countP_append]
  omega

end Table

end Relational
