import Mathlib.Algebra.Order.Ring.Int
import Mathlib.Data.List.Basic

/-! Channels between concurrent processes. A bounded channel keeps everything that was ever sent on it. -/

namespace Concurrent
variable {α : Type}

structure Channel (α : Type) where
  capacity : Nat
  sent : List α
  taken : Nat
  closed : Bool

inductive TrySendError where
  | full | closed
deriving DecidableEq, Repr

namespace Channel

def create (capacity : Nat) : Channel α := ⟨capacity, [], 0, false⟩

def waiting (channel : Channel α) : List α := channel.sent.drop channel.taken

def trySend (item : α) (channel : Channel α) : Except TrySendError (Channel α) :=
  if channel.closed then .error .closed
  else if channel.capacity ≤ channel.waiting.length then .error .full
  else .ok { channel with sent := channel.sent ++ [item] }

/-- Sends the items up to the first that is refused. Yields how many, and whether all. -/
def trySendAll : List α → Channel α → (Nat × Bool) × Channel α
  | [], channel => ((0, true), channel)
  | item :: items, channel =>
    match channel.trySend item with
    | .error _ => ((0, false), channel)
    | .ok channel =>
      let ((count, all), channel) := trySendAll items channel
      ((count + 1, all), channel)

def take (channel : Channel α) : Channel α :=
  if channel.taken < channel.sent.length then { channel with taken := channel.taken + 1 } else channel

def close (channel : Channel α) : Channel α := { channel with closed := true }

theorem trySend_ok {item : α} {channel after : Channel α} (success : channel.trySend item = .ok after) :
    after = { channel with sent := channel.sent ++ [item] } := by
  unfold trySend at success
  split at success
  · cases success
  split at success
  · cases success
  · exact (Except.ok.inj success).symm

theorem trySendAll_fits {items : List α} {channel : Channel α} (live : channel.closed = false)
    (fits : channel.waiting.length + items.length ≤ channel.capacity) (behind : channel.taken ≤ channel.sent.length) :
    channel.trySendAll items = ((items.length, true), { channel with sent := channel.sent ++ items }) := by
  induction items generalizing channel with
  | nil =>
    rw [trySendAll, List.append_nil]
    rfl
  | cons item items ih =>
    rw [List.length_cons] at fits
    have room : ¬ channel.capacity ≤ channel.waiting.length := by omega
    have sent : channel.trySend item = .ok { channel with sent := channel.sent ++ [item] } := by
      rw [trySend, live, if_neg Bool.false_ne_true, if_neg room]
    have grown : ({ channel with sent := channel.sent ++ [item] } : Channel α).waiting.length =
        channel.waiting.length + 1 := by
      simp only [waiting, List.length_drop, List.length_append, List.length_singleton]
      omega
    have rest : ({ channel with sent := channel.sent ++ [item] } : Channel α).trySendAll items =
        ((items.length, true), { channel with sent := channel.sent ++ [item] ++ items }) := by
      refine @ih { channel with sent := channel.sent ++ [item] } live ?_ ?_
      · show _ ≤ channel.capacity
        rw [grown]
        omega
      · show channel.taken ≤ (channel.sent ++ [item]).length
        rw [List.length_append]
        omega
    rw [trySendAll, sent]
    simp only [rest, List.length_cons, List.append_assoc, List.singleton_append]

theorem mem_trySendAll {items : List α} {channel : Channel α} {item : α}
    (member : item ∈ (channel.trySendAll items).2.sent) : item ∈ channel.sent ∨ item ∈ items := by
  induction items generalizing channel with
  | nil => exact .inl member
  | cons first items ih =>
    unfold trySendAll at member
    split at member
    · exact .inl member
    · rename_i after success
      cases trySend_ok success
      rcases ih member with earlier | later
      · rcases List.mem_append.mp earlier with earlier | new
        · exact .inl earlier
        · exact .inr (List.mem_cons.mpr (.inl (List.mem_singleton.mp new)))
      · exact .inr (List.mem_cons_of_mem _ later)

end Channel

/-- One-shot channels, numbered in the order they were created. -/
structure Oneshots (α : Type) where
  created : Nat
  delivered : List (Nat × α)

namespace Oneshots

def none : Oneshots α := ⟨0, []⟩

def create (oneshots : Oneshots α) : Nat × Oneshots α :=
  (oneshots.created, { oneshots with created := oneshots.created + 1 })

def send (oneshots : Oneshots α) (channel : Nat) (value : α) : Oneshots α :=
  { oneshots with delivered := oneshots.delivered ++ [(channel, value)] }

end Oneshots

end Concurrent
