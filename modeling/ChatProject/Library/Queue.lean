import Mathlib

/-! Queues of bounded length, the oldest element first. -/

structure BoundedQueue (capacity : Nat) (α : Type) where
  toList : List α := []
  bound : toList.length ≤ capacity := by exact Nat.zero_le _

namespace BoundedQueue

variable {capacity : Nat} {α : Type}

def trySend (a : α) (queue : BoundedQueue capacity α) : Option (BoundedQueue capacity α) :=
  if room : queue.toList.length < capacity then
    some ⟨queue.toList ++ [a], by rw [List.length_append]; exact room⟩
  else none

def tryReceive (queue : BoundedQueue capacity α) : Option (α × BoundedQueue capacity α) :=
  match queue with
  | ⟨[], _⟩ => none
  | ⟨a :: rest, bound⟩ => some (a, ⟨rest, Nat.le_of_succ_le bound⟩)

theorem trySend_eq_some {a : α} {queue after : BoundedQueue capacity α} :
    queue.trySend a = some after ↔ after.toList = queue.toList ++ [a] := by
  unfold trySend
  constructor
  · intro sent
    split at sent
    · cases sent
      rfl
    · cases sent
  · intro same
    have room : queue.toList.length < capacity := by
      have bound := after.bound
      rw [same, List.length_append] at bound
      exact bound
    obtain ⟨rest, bound⟩ := after
    cases same
    rw [dif_pos room]
    rfl

theorem trySend_eq_none {a : α} {queue : BoundedQueue capacity α} :
    queue.trySend a = none ↔ queue.toList.length = capacity := by
  have bound := queue.bound
  unfold trySend
  split
  · rename_i room
    constructor
    · intro none
      cases none
    · intro full
      omega
  · constructor
    · intro _
      omega
    · intro _
      rfl

theorem tryReceive_eq_some {a : α} {queue after : BoundedQueue capacity α} :
    queue.tryReceive = some (a, after) ↔ queue.toList = a :: after.toList := by
  obtain ⟨elements, bound⟩ := queue
  obtain ⟨rest, short⟩ := after
  cases elements with
  | nil => simp [tryReceive]
  | cons first others => simp [tryReceive]

theorem tryReceive_eq_none {queue : BoundedQueue capacity α} : queue.tryReceive = none ↔ queue.toList = [] := by
  obtain ⟨elements, bound⟩ := queue
  cases elements <;> simp [tryReceive]

end BoundedQueue
