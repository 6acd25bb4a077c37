import Mathlib

/-! Numbered items of many senders, which come out at receivers, some through a room where they wait in line. -/

/-- The numbers of each sender's items that have come out at a receiver, and of those that wait in a room. -/
@[ext]
structure Passage (S R W : Type) where
  out : S → R → List Nat
  waiting : S → W → List Nat

namespace Passage

variable {S R W : Type} {room : R → W} {used later : S → Nat → Prop} {passage : Passage S R W} {sender : S} {receiver : R}
  {place : W} {number : Nat} {rest : List Nat}

/-- The items of each sender come out at a receiver in their order, also those that wait still, and no item is in two
    places. Only numbers that are used up are anywhere. -/
structure Orderly (room : R → W) (used : S → Nat → Prop) (passage : Passage S R W) : Prop where
  usedOut : ∀ s r, ∀ n ∈ passage.out s r, used s n
  usedWaiting : ∀ s w, ∀ n ∈ passage.waiting s w, used s n
  increasing : ∀ s r, (passage.out s r ++ passage.waiting s (room r)).Pairwise (· < ·)
  inLine : ∀ s w, (passage.waiting s w).Pairwise (· < ·)
  once : ∀ s first second n, n ∈ passage.out s first → n ∈ passage.out s second → first = second
  alone : ∀ s first second n, n ∈ passage.waiting s first → n ∈ passage.waiting s second → first = second
  apart : ∀ s r w n, n ∈ passage.out s r → n ∉ passage.waiting s w

namespace Orderly

theorem empty (room : R → W) (used : S → Nat → Prop) : Orderly room used ⟨fun _ _ => [], fun _ _ => []⟩ where
  usedOut _ _ _ member := by cases member
  usedWaiting _ _ _ member := by cases member
  increasing _ _ := .nil
  inLine _ _ := .nil
  once _ _ _ _ member := by cases member
  alone _ _ _ _ member := by cases member
  apart _ _ _ _ member := by cases member

theorem mono (orderly : passage.Orderly room used) (grows : ∀ s n, used s n → later s n) : passage.Orderly room later where
  usedOut s r n member := grows s n (orderly.usedOut s r n member)
  usedWaiting s w n member := grows s n (orderly.usedWaiting s w n member)
  increasing := orderly.increasing
  inLine := orderly.inLine
  once := orderly.once
  alone := orderly.alone
  apart := orderly.apart

end Orderly

theorem append_singleton_pairwise {numbers : List Nat} (ordered : numbers.Pairwise (· < ·)) (below : ∀ n ∈ numbers, n < number) :
    (numbers ++ [number]).Pairwise (· < ·) := by
  refine List.pairwise_append.mpr ⟨ordered, List.pairwise_singleton _ _, ?_⟩
  intro n member other same
  rw [List.mem_singleton.mp same]
  exact below n member

/-! ## The rooms -/

section Rooms

variable [DecidableEq S] [DecidableEq W]

/-- An item goes into a room, behind all others. -/
def enter (sender : S) (place : W) (number : Nat) (passage : Passage S R W) : Passage S R W where
  out := passage.out
  waiting s w := if s = sender ∧ w = place then passage.waiting s w ++ [number] else passage.waiting s w

/-- The first item of a sender leaves a room. -/
def leave (sender : S) (place : W) (passage : Passage S R W) : Passage S R W where
  out := passage.out
  waiting s w := if s = sender ∧ w = place then (passage.waiting s w).tail else passage.waiting s w

theorem mem_enter {s : S} {w : W} {n : Nat} : n ∈ (passage.enter sender place number).waiting s w ↔
    n ∈ passage.waiting s w ∨ (s = sender ∧ w = place) ∧ n = number := by
  unfold enter
  dsimp only
  split
  · rename_i here
    rw [List.mem_append, List.mem_singleton, and_iff_right here]
  · rename_i elsewhere
    simp only [elsewhere, false_and, or_false]

theorem leave_sublist (sender : S) (place : W) (s : S) (w : W) :
    ((passage.leave sender place).waiting s w).Sublist (passage.waiting s w) := by
  unfold leave
  dsimp only
  split
  · exact List.tail_sublist _
  · exact List.Sublist.refl _

theorem Orderly.enter (orderly : passage.Orderly room used) (grows : ∀ s n, used s n → later s n)
    (fresh : ∀ n, used sender n → n < number) (uses : later sender number) :
    (passage.enter sender place number).Orderly room later := by
  have new : ∀ {n}, used sender n → n ≠ number := fun old same => Nat.lt_irrefl _ (same ▸ fresh _ old)
  refine ⟨fun s r n member => grows s n (orderly.usedOut s r n member), ?_, ?_, ?_, orderly.once, ?_, ?_⟩
  · intro s w n member
    rcases mem_enter.mp member with old | ⟨⟨rfl, _⟩, rfl⟩
    · exact grows s n (orderly.usedWaiting s w n old)
    · exact uses
  · intro s r
    unfold Passage.enter
    dsimp only
    split
    · rename_i here
      rw [← List.append_assoc]
      refine append_singleton_pairwise (orderly.increasing s r) ?_
      rintro n member
      rw [here.1] at member
      rcases List.mem_append.mp member with old | waits
      · exact fresh n (orderly.usedOut sender r n old)
      · exact fresh n (orderly.usedWaiting sender (room r) n waits)
    · exact orderly.increasing s r
  · intro s w
    unfold Passage.enter
    dsimp only
    split
    · rename_i here
      refine append_singleton_pairwise (orderly.inLine s w) ?_
      rintro n member
      rw [here.1] at member
      exact fresh n (orderly.usedWaiting sender w n member)
    · exact orderly.inLine s w
  · intro s first second n here there
    rcases mem_enter.mp here with old | ⟨⟨rfl, rfl⟩, rfl⟩ <;> rcases mem_enter.mp there with other | ⟨⟨own, rfl⟩, same⟩
    · exact orderly.alone s first second n old other
    · subst own
      exact absurd same (new (orderly.usedWaiting s first n old))
    · exact absurd rfl (new (orderly.usedWaiting s second n other))
    · rfl
  · intro s r w n here there
    rcases mem_enter.mp there with old | ⟨⟨rfl, _⟩, same⟩
    · exact orderly.apart s r w n here old
    · exact new (orderly.usedOut s r n here) same

theorem Orderly.leave (orderly : passage.Orderly room used) : (passage.leave sender place).Orderly room used := by
  have kept : ∀ {s w n}, n ∈ (passage.leave sender place).waiting s w → n ∈ passage.waiting s w := by
    intro s w n member
    exact (leave_sublist sender place s w).subset member
  refine ⟨orderly.usedOut, ?_, ?_, ?_, orderly.once, ?_, ?_⟩
  · exact fun s w n member => orderly.usedWaiting s w n (kept member)
  · intro s r
    exact (orderly.increasing s r).sublist (List.Sublist.append_left (leave_sublist sender place s (room r)) _)
  · intro s w
    exact (orderly.inLine s w).sublist (leave_sublist sender place s w)
  · exact fun s first second n here there => orderly.alone s first second n (kept here) (kept there)
  · exact fun s r w n here there => orderly.apart s r w n here (kept there)

end Rooms

/-! ## The receivers -/

section Receivers

variable [DecidableEq S] [DecidableEq R]

/-- An item comes out at a receiver. -/
def emit (sender : S) (receiver : R) (number : Nat) (passage : Passage S R W) : Passage S R W where
  out s r := if s = sender ∧ r = receiver then passage.out s r ++ [number] else passage.out s r
  waiting := passage.waiting

theorem mem_emit {s : S} {r : R} {n : Nat} : n ∈ (passage.emit sender receiver number).out s r ↔
    n ∈ passage.out s r ∨ (s = sender ∧ r = receiver) ∧ n = number := by
  unfold emit
  dsimp only
  split
  · rename_i here
    rw [List.mem_append, List.mem_singleton, and_iff_right here]
  · rename_i elsewhere
    simp only [elsewhere, false_and, or_false]

/-- An item that has waited nowhere comes out. -/
theorem Orderly.emit (orderly : passage.Orderly room used) (grows : ∀ s n, used s n → later s n)
    (fresh : ∀ n, used sender n → n < number) (uses : later sender number)
    (nobody : passage.waiting sender (room receiver) = []) : (passage.emit sender receiver number).Orderly room later := by
  have new : ∀ {n}, used sender n → n ≠ number := fun old same => Nat.lt_irrefl _ (same ▸ fresh _ old)
  refine ⟨?_, fun s w n member => grows s n (orderly.usedWaiting s w n member), ?_, orderly.inLine, ?_, orderly.alone, ?_⟩
  · intro s r n member
    rcases mem_emit.mp member with old | ⟨⟨rfl, _⟩, rfl⟩
    · exact grows s n (orderly.usedOut s r n old)
    · exact uses
  · intro s r
    unfold Passage.emit
    dsimp only
    split
    · rename_i here
      obtain ⟨rfl, rfl⟩ := here
      have ordered := orderly.increasing s r
      rw [nobody, List.append_nil] at ordered ⊢
      exact append_singleton_pairwise ordered fun n member => fresh n (orderly.usedOut s r n member)
    · exact orderly.increasing s r
  · intro s first second n here there
    rcases mem_emit.mp here with old | ⟨⟨rfl, rfl⟩, rfl⟩ <;> rcases mem_emit.mp there with other | ⟨⟨own, rfl⟩, same⟩
    · exact orderly.once s first second n old other
    · subst own
      exact absurd same (new (orderly.usedOut s first n old))
    · exact absurd rfl (new (orderly.usedOut s second n other))
    · rfl
  · intro s r w n here there
    rcases mem_emit.mp here with old | ⟨⟨rfl, _⟩, same⟩
    · exact orderly.apart s r w n old there
    · exact new (orderly.usedWaiting s w n there) same

/-- The first item of a sender in the room of a receiver comes out there. -/
theorem Orderly.pass [DecidableEq W] (orderly : passage.Orderly room used) (first : passage.waiting sender (room receiver) = number :: rest) :
    ((passage.leave sender (room receiver)).emit sender receiver number).Orderly room used := by
  have left : (passage.leave sender (room receiver)).Orderly room used := orderly.leave
  have head : number ∈ passage.waiting sender (room receiver) := by
    rw [first]
    exact List.mem_cons_self
  refine ⟨?_, left.usedWaiting, ?_, left.inLine, ?_, left.alone, ?_⟩
  · intro s r n member
    rcases mem_emit.mp member with old | ⟨⟨rfl, _⟩, rfl⟩
    · exact orderly.usedOut s r n old
    · exact orderly.usedWaiting _ _ _ head
  · intro s r
    by_cases here : s = sender ∧ r = receiver
    · -- the line of this receiver stays as it is
      obtain ⟨rfl, rfl⟩ := here
      have line := orderly.increasing s r
      simp only [Passage.emit, Passage.leave, and_self, if_true]
      rw [first, List.append_cons] at line
      rwa [first, List.tail_cons]
    · simp only [Passage.emit, if_neg here]
      exact left.increasing s r
  · intro s one two n here there
    rcases mem_emit.mp here with old | ⟨⟨rfl, rfl⟩, rfl⟩ <;> rcases mem_emit.mp there with other | ⟨⟨own, rfl⟩, same⟩
    · exact orderly.once s one two n old other
    · subst own same
      exact absurd head (orderly.apart s one _ n old)
    · exact absurd head (orderly.apart s two _ n other)
    · rfl
  · intro s r w n here there
    rcases mem_emit.mp here with old | ⟨⟨rfl, rfl⟩, rfl⟩
    · exact left.apart s r w n old there
    · have waits := (leave_sublist s (room r) s w).subset there
      have same := orderly.alone s w (room r) n waits head
      subst same
      have line := orderly.inLine s (room r)
      simp only [Passage.emit, Passage.leave, and_self, if_true] at there
      rw [first] at line there
      exact Nat.lt_irrefl n ((List.pairwise_cons.mp line).1 n there)

end Receivers

end Passage
