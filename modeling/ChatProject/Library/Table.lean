import Mathlib

/-! Tables with one unique index, and the statements that respect it. -/

structure UniqueTable {ρ κ : Type} (key : ρ → κ) where
  rows : List ρ
  unique : (rows.map key).Nodup

namespace UniqueTable

variable {ρ κ : Type} {key : ρ → κ}

instance : Membership ρ (UniqueTable key) := ⟨fun table row => row ∈ table.rows⟩

@[simp] theorem mem_rows {row : ρ} {table : UniqueTable key} : row ∈ table.rows ↔ row ∈ table := Iff.rfl

def empty : UniqueTable key := ⟨[], List.nodup_nil⟩

@[simp] theorem not_mem_empty (row : ρ) : ¬ row ∈ (empty : UniqueTable key) := List.not_mem_nil

def holds (k : κ) (table : UniqueTable key) : Prop := ∃ row ∈ table, key row = k

@[simp] theorem not_holds_empty (k : κ) : ¬ (empty : UniqueTable key).holds k := by
  rintro ⟨row, member, _⟩
  exact not_mem_empty row member

section Insert

variable [DecidableEq κ]

instance (k : κ) (table : UniqueTable key) : Decidable (table.holds k) :=
  inferInstanceAs (Decidable (∃ row ∈ table.rows, key row = k))

/-- `INSERT`, which leaves a table with a row under this key as it is. -/
def insertIgnore (row : ρ) (table : UniqueTable key) : UniqueTable key :=
  if present : table.holds (key row) then table
  else ⟨table.rows ++ [row], by
    rw [List.map_append, List.nodup_append]
    refine ⟨table.unique, by simp, ?_⟩
    rintro a member b inside rfl
    obtain ⟨other, inTable, same⟩ := List.mem_map.mp member
    simp only [List.map_cons, List.map_nil, List.mem_singleton] at inside
    exact present ⟨other, inTable, same.trans inside⟩⟩

theorem insertIgnore_of_holds {row : ρ} {table : UniqueTable key} (present : table.holds (key row)) :
    table.insertIgnore row = table := dif_pos present

theorem insertIgnore_eq_self {row : ρ} {table : UniqueTable key} : table.insertIgnore row = table ↔ table.holds (key row) := by
  constructor
  · intro same
    by_contra absent
    have added : (table.insertIgnore row).rows = table.rows ++ [row] := by
      unfold insertIgnore
      rw [dif_neg absent]
    rw [same] at added
    exact absurd (congrArg List.length added) (by simp)
  · exact insertIgnore_of_holds

theorem mem_insertIgnore {row other : ρ} {table : UniqueTable key} :
    other ∈ table.insertIgnore row ↔ other ∈ table ∨ (other = row ∧ ¬ table.holds (key row)) := by
  by_cases present : table.holds (key row)
  · simp [insertIgnore_of_holds present, present]
  · have added : (table.insertIgnore row).rows = table.rows ++ [row] := by
      unfold insertIgnore
      rw [dif_neg present]
    rw [← mem_rows, added, List.mem_append, List.mem_singleton]
    simp [present]

theorem holds_insertIgnore {row : ρ} {table : UniqueTable key} {k : κ} :
    (table.insertIgnore row).holds k ↔ table.holds k ∨ k = key row := by
  constructor
  · rintro ⟨other, member, same⟩
    rcases mem_insertIgnore.mp member with member | ⟨rfl, _⟩
    · exact .inl ⟨other, member, same⟩
    · exact .inr same.symm
  · rintro (⟨other, member, same⟩ | rfl)
    · exact ⟨other, mem_insertIgnore.mpr (.inl member), same⟩
    · by_cases present : table.holds (key row)
      · rw [insertIgnore_of_holds present]
        exact present
      · exact ⟨row, mem_insertIgnore.mpr (.inr ⟨rfl, present⟩), rfl⟩

theorem insertIgnore_idem (row : ρ) (table : UniqueTable key) :
    (table.insertIgnore row).insertIgnore row = table.insertIgnore row :=
  insertIgnore_of_holds (holds_insertIgnore.mpr (.inr rfl))

end Insert

section Pairs

variable {pair : ρ → κ × κ} [DecidableEq κ]

/-- With each pair in the index, the table has the reversed pair. -/
def Mutual (table : UniqueTable pair) : Prop := ∀ row ∈ table, table.holds (pair row).swap

/-- A pair that is inserted in both directions leaves the table mutual. -/
theorem Mutual.insertBoth {table : UniqueTable pair} (reflected : table.Mutual) {row other : ρ} (reversed : pair other = (pair row).swap) :
    ((table.insertIgnore row).insertIgnore other).Mutual := by
  have both : ((table.insertIgnore row).insertIgnore other).holds (pair row) ∧
      ((table.insertIgnore row).insertIgnore other).holds (pair other) := by
    simp only [holds_insertIgnore, true_or, or_true, and_self]
  intro entry member
  rcases mem_insertIgnore.mp member with first | ⟨same, _⟩
  · rcases mem_insertIgnore.mp first with old | ⟨same, _⟩
    · simp only [holds_insertIgnore, reflected entry old, true_or]
    · rw [same, ← reversed]
      exact both.2
  · rw [same, reversed, Prod.swap_swap]
    exact both.1

theorem insertBoth_eq_self {row other : ρ} {table : UniqueTable pair} :
    (table.insertIgnore row).insertIgnore other = table ↔ table.holds (pair row) ∧ table.holds (pair other) := by
  constructor
  · intro same
    rw [← same]
    simp only [holds_insertIgnore, true_or, or_true, and_self]
  · intro present
    rw [insertIgnore_of_holds present.1, insertIgnore_of_holds present.2]

/-- Inserting both directions once more changes nothing. -/
theorem insertBoth_idem (row other : ρ) (table : UniqueTable pair) :
    (((table.insertIgnore row).insertIgnore other).insertIgnore row).insertIgnore other =
      (table.insertIgnore row).insertIgnore other := by
  have first : ((table.insertIgnore row).insertIgnore other).insertIgnore row = (table.insertIgnore row).insertIgnore other := by
    apply insertIgnore_of_holds
    simp only [holds_insertIgnore, true_or, or_true]
  rw [first, insertIgnore_idem]

end Pairs

/-- `UPDATE`, of columns outside the index, of the rows that pass the test. -/
def updateWhere (test : ρ → Bool) (change : ρ → ρ) (fixed : ∀ row, key (change row) = key row)
    (table : UniqueTable key) : UniqueTable key :=
  ⟨table.rows.map fun row => if test row then change row else row, by
    have same : (table.rows.map fun row => if test row then change row else row).map key =
        table.rows.map key := by
      rw [List.map_map]
      refine List.map_congr_left fun row _ => ?_
      by_cases passes : test row <;> simp [passes, fixed]
    rw [same]
    exact table.unique⟩

theorem mem_updateWhere {test : ρ → Bool} {change : ρ → ρ} {fixed : ∀ row, key (change row) = key row}
    {table : UniqueTable key} {row : ρ} :
    row ∈ table.updateWhere test change fixed ↔
      ∃ old ∈ table, row = if test old then change old else old := by
  rw [← mem_rows]
  simp only [updateWhere, List.mem_map, mem_rows]
  constructor <;> rintro ⟨old, member, same⟩ <;> exact ⟨old, member, same.symm⟩

theorem holds_updateWhere {test : ρ → Bool} {change : ρ → ρ} {fixed : ∀ row, key (change row) = key row}
    {table : UniqueTable key} {k : κ} :
    (table.updateWhere test change fixed).holds k ↔ table.holds k := by
  have kept : ∀ old : ρ, key (if test old then change old else old) = key old := by
    intro old
    by_cases passes : test old <;> simp [passes, fixed]
  constructor
  · rintro ⟨row, member, same⟩
    obtain ⟨old, inTable, rfl⟩ := mem_updateWhere.mp member
    exact ⟨old, inTable, (kept old).symm.trans same⟩
  · rintro ⟨old, member, same⟩
    exact ⟨_, mem_updateWhere.mpr ⟨old, member, rfl⟩, (kept old).trans same⟩

/-- An `UPDATE` whose test no row passes changes nothing. -/
theorem updateWhere_none {test : ρ → Bool} {change : ρ → ρ} {fixed : ∀ row, key (change row) = key row}
    {table : UniqueTable key} (fails : ∀ row ∈ table, test row = false) :
    table.updateWhere test change fixed = table := by
  obtain ⟨rows, unique⟩ := table
  have same : (rows.map fun row => if test row then change row else row) = rows := by
    conv_rhs => rw [← List.map_id rows]
    refine List.map_congr_left fun row member => ?_
    simp [fails row member]
  simp only [updateWhere, same]

theorem updateWhere_eq_self {test : ρ → Bool} {change : ρ → ρ} {fixed : ∀ row, key (change row) = key row}
    {table : UniqueTable key} :
    table.updateWhere test change fixed = table ↔ ∀ row ∈ table, test row = true → change row = row := by
  obtain ⟨rows, unique⟩ := table
  simp only [updateWhere, mk.injEq]
  conv_lhs => rhs; rw [← List.map_id rows]
  rw [List.map_inj_left]
  apply forall₂_congr
  intro row _
  by_cases passes : test row <;> simp [passes]

/-- An `UPDATE` that sets columns changes nothing when it is repeated. -/
theorem updateWhere_idem {test : ρ → Bool} {change : ρ → ρ} {fixed : ∀ row, key (change row) = key row}
    (stable : ∀ row, change (change row) = change row) (table : UniqueTable key) :
    (table.updateWhere test change fixed).updateWhere test change fixed = table.updateWhere test change fixed := by
  obtain ⟨rows, unique⟩ := table
  have same : ((rows.map fun row => if test row then change row else row).map fun row => if test row then change row else row) =
      rows.map fun row => if test row then change row else row := by
    rw [List.map_map]
    refine List.map_congr_left fun row _ => ?_
    by_cases passes : test row
    · simp [passes, stable]
    · simp [passes]
  simp only [updateWhere, same]

end UniqueTable
