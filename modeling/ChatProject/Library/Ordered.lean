import Mathlib

/-! Finite sets kept in increasing order, iterated from the least element. -/

structure OrderedSet (α : Type) [LinearOrder α] where
  toList : List α
  sorted : toList.Pairwise (· < ·)

namespace OrderedSet

variable {α : Type} [LinearOrder α]

instance : Membership α (OrderedSet α) := ⟨fun set a => a ∈ set.toList⟩

@[simp] theorem mem_toList {a : α} {set : OrderedSet α} : a ∈ set.toList ↔ a ∈ set := Iff.rfl

def empty : OrderedSet α := ⟨[], .nil⟩

@[simp] theorem not_mem_empty (a : α) : ¬ a ∈ (empty : OrderedSet α) := List.not_mem_nil

def insertSorted (a : α) : List α → List α
  | [] => [a]
  | b :: rest => if a < b then a :: b :: rest else if a = b then b :: rest else b :: insertSorted a rest

@[simp] theorem mem_insertSorted (a b : α) (l : List α) : b ∈ insertSorted a l ↔ b = a ∨ b ∈ l := by
  induction l with
  | nil => simp [insertSorted]
  | cons head rest ih =>
    unfold insertSorted
    split
    · simp
    · split
      · rename_i same
        subst same
        simp
      · simp only [List.mem_cons, ih]
        tauto

theorem insertSorted_sorted (a : α) (l : List α) (sorted : l.Pairwise (· < ·)) :
    (insertSorted a l).Pairwise (· < ·) := by
  induction l with
  | nil => simp [insertSorted]
  | cons head rest ih =>
    obtain ⟨least, tail⟩ := List.pairwise_cons.mp sorted
    unfold insertSorted
    split
    · rename_i below
      refine List.pairwise_cons.mpr ⟨?_, sorted⟩
      intro b member
      rcases List.mem_cons.mp member with rfl | member
      · exact below
      · exact lt_trans below (least b member)
    · split
      · exact sorted
      · rename_i notBelow different
        refine List.pairwise_cons.mpr ⟨?_, ih tail⟩
        intro b member
        rcases (mem_insertSorted a b rest).mp member with rfl | member
        · exact lt_of_le_of_ne (not_lt.mp notBelow) (Ne.symm different)
        · exact least b member

def insert (a : α) (set : OrderedSet α) : OrderedSet α :=
  ⟨insertSorted a set.toList, insertSorted_sorted a _ set.sorted⟩

def erase (a : α) (set : OrderedSet α) : OrderedSet α :=
  ⟨set.toList.filter (· ≠ a), set.sorted.filter _⟩

def size (set : OrderedSet α) : Nat := set.toList.length

@[simp] theorem mem_insert {a b : α} {set : OrderedSet α} : b ∈ set.insert a ↔ b = a ∨ b ∈ set :=
  mem_insertSorted a b set.toList

@[simp] theorem mem_erase {a b : α} {set : OrderedSet α} : b ∈ set.erase a ↔ b ∈ set ∧ b ≠ a := by
  change b ∈ set.toList.filter (· ≠ a) ↔ _
  simp

section Count

variable {test other : α → Bool} {a : α} {set : OrderedSet α}

/-- How many elements pass the test. -/
def count (test : α → Bool) (set : OrderedSet α) : Nat := set.toList.countP test

theorem countP_insertSorted (fails : test a = false) (l : List α) : (insertSorted a l).countP test = l.countP test := by
  induction l with
  | nil => simp [insertSorted, fails]
  | cons head rest ih =>
    unfold insertSorted
    split
    · rw [List.countP_cons, fails]
      rfl
    · split
      · rfl
      · rw [List.countP_cons, List.countP_cons, ih]

theorem count_insert (fails : test a = false) : (set.insert a).count test = set.count test :=
  countP_insertSorted fails set.toList

theorem count_erase (fails : a ∈ set → test a = false) : (set.erase a).count test = set.count test := by
  change (set.toList.filter (· ≠ a)).countP test = set.toList.countP test
  rw [List.countP_filter]
  apply List.countP_congr
  intro b member
  by_cases same : b = a
  · subst same
    simp [fails member]
  · simp [same]

theorem count_congr (same : ∀ b ∈ set, test b = other b) : set.count test = set.count other := by
  apply List.countP_congr
  intro b member
  rw [same b member]

theorem count_eq_size (all : ∀ b ∈ set, test b = true) : set.count test = set.size :=
  List.countP_eq_length.mpr all

end Count

/-- The least element that passes the test. -/
def first (test : α → Bool) (set : OrderedSet α) : Option α := set.toList.find? test

theorem first_isSome {test : α → Bool} {set : OrderedSet α} :
    (set.first test).isSome ↔ ∃ a ∈ set, test a = true := by
  simp [first, List.find?_isSome]

theorem first_mem {test : α → Bool} {set : OrderedSet α} {a : α} (found : set.first test = some a) :
    a ∈ set := List.mem_of_find?_eq_some found

theorem first_test {test : α → Bool} {set : OrderedSet α} {a : α} (found : set.first test = some a) :
    test a = true := List.find?_some found

theorem find_least {test : α → Bool} {l : List α} (sorted : l.Pairwise (· < ·)) {a : α} :
    l.find? test = some a ↔ a ∈ l ∧ test a = true ∧ ∀ b ∈ l, test b = true → a ≤ b := by
  induction l with
  | nil => simp
  | cons head rest ih =>
    obtain ⟨least, tail⟩ := List.pairwise_cons.mp sorted
    by_cases passes : test head = true
    · simp only [List.find?_cons, passes, Option.some.injEq]
      constructor
      · rintro rfl
        refine ⟨List.mem_cons_self, passes, ?_⟩
        intro b member _
        rcases List.mem_cons.mp member with rfl | member
        · exact le_refl _
        · exact le_of_lt (least b member)
      · rintro ⟨member, _, below⟩
        rcases List.mem_cons.mp member with rfl | member
        · rfl
        · exact absurd (below head List.mem_cons_self passes) (not_le.mpr (least a member))
    · have skip : (head :: rest).find? test = rest.find? test := by simp [passes]
      rw [skip, ih tail]
      constructor
      · rintro ⟨member, holds, below⟩
        refine ⟨List.mem_cons_of_mem _ member, holds, ?_⟩
        intro b inside ok
        rcases List.mem_cons.mp inside with rfl | inside
        · exact absurd ok passes
        · exact below b inside ok
      · rintro ⟨member, holds, below⟩
        rcases List.mem_cons.mp member with rfl | member
        · exact absurd holds passes
        · exact ⟨member, holds, fun b inside ok => below b (List.mem_cons_of_mem _ inside) ok⟩

theorem first_eq_some {test : α → Bool} {set : OrderedSet α} {a : α} :
    set.first test = some a ↔ a ∈ set ∧ test a = true ∧ ∀ b ∈ set, test b = true → a ≤ b :=
  find_least set.sorted

end OrderedSet
