import Mathlib

/-! The last value that a history, the newest entry first, gives to something. -/

variable {ε α : Type} {gives : ε → α → Prop} {value : α} {entry : ε} {older : List ε}

inductive Latest (gives : ε → α → Prop) (value : α) : List ε → Prop
  | here (entry : ε) (older : List ε) : gives entry value → Latest gives value (entry :: older)
  | earlier (entry : ε) (older : List ε) : (∀ other, ¬ gives entry other) → Latest gives value older →
      Latest gives value (entry :: older)

namespace Latest

theorem not_nil : ¬ Latest gives value [] := nofun

theorem cons_iff : Latest gives value (entry :: older) ↔
    gives entry value ∨ (∀ other, ¬ gives entry other) ∧ Latest gives value older := by
  constructor
  · intro latest
    cases latest with
    | here _ _ given => exact .inl given
    | earlier _ _ none latest => exact .inr ⟨none, latest⟩
  · rintro (given | ⟨none, latest⟩)
    · exact .here entry older given
    · exact .earlier entry older none latest

theorem cons_of_none (none : ∀ other, ¬ gives entry other) :
    Latest gives value (entry :: older) ↔ Latest gives value older := by
  simp [cons_iff, none]

theorem given {history : List ε} (latest : Latest gives value history) : ∃ entry ∈ history, gives entry value := by
  induction latest with
  | here entry older here => exact ⟨entry, List.mem_cons_self, here⟩
  | earlier entry older _ _ ih =>
    obtain ⟨other, member, here⟩ := ih
    exact ⟨other, List.mem_cons_of_mem _ member, here⟩

/-- An entry that gives one value is the end of the search. -/
theorem cons_of_one {given : α} (one : ∀ other, gives entry other ↔ given = other) :
    Latest gives value (entry :: older) ↔ given = value := by
  simp [cons_iff, one]

/-- The older part counts only where the newer one gives nothing. -/
theorem append_iff {newer : List ε} : Latest gives value (newer ++ older) ↔
    Latest gives value newer ∨ (∀ other, ¬ Latest gives other newer) ∧ Latest gives value older := by
  induction newer with
  | nil => simp [not_nil]
  | cons entry newer ih =>
    have silent : (∀ other, ¬ Latest gives other (entry :: newer)) ↔
        (∀ other, ¬ gives entry other) ∧ ∀ other, ¬ Latest gives other newer := by
      constructor
      · intro none
        have first : ∀ other, ¬ gives entry other := fun other given => none other (.here entry newer given)
        exact ⟨first, fun other latest => none other (.earlier entry newer first latest)⟩
      · rintro ⟨first, rest⟩ other latest
        rcases cons_iff.mp latest with given | ⟨_, latest⟩
        · exact first other given
        · exact rest other latest
    rw [List.cons_append, cons_iff, cons_iff, ih, silent]
    tauto

theorem congr {also : ε → α → Prop} {history : List ε} (same : ∀ entry ∈ history, ∀ value, gives entry value ↔ also entry value) :
    Latest gives value history ↔ Latest also value history := by
  induction history with
  | nil => simp [not_nil]
  | cons entry older ih =>
    obtain ⟨here, rest⟩ := List.forall_mem_cons.mp same
    simp only [cons_iff, here, ih rest]

end Latest
