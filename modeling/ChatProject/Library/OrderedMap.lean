import Mathlib

/-! Finite maps kept in increasing order of their keys, iterated from the least one. -/

structure OrderedMap (κ ν : Type) [LinearOrder κ] where
  entries : List (κ × ν)
  sorted : entries.Pairwise fun first second => first.1 < second.1

namespace OrderedMap

variable {κ ν : Type} [LinearOrder κ]

def empty : OrderedMap κ ν := ⟨[], .nil⟩

def lookup (key : κ) (entries : List (κ × ν)) : Option ν := (entries.find? (·.1 = key)).map (·.2)

def find? (key : κ) (map : OrderedMap κ ν) : Option ν := lookup key map.entries

def assignSorted (key : κ) (value : ν) : List (κ × ν) → List (κ × ν)
  | [] => [(key, value)]
  | (other, old) :: rest =>
    if key < other then (key, value) :: (other, old) :: rest
    else if key = other then (key, value) :: rest
    else (other, old) :: assignSorted key value rest

theorem lookup_cons (key other : κ) (value : ν) (rest : List (κ × ν)) :
    lookup key ((other, value) :: rest) = if other = key then some value else lookup key rest := by
  by_cases same : other = key <;> simp [lookup, same]

theorem mem_assignSorted {key : κ} {value : ν} {entry : κ × ν} {entries : List (κ × ν)}
    (member : entry ∈ assignSorted key value entries) : entry = (key, value) ∨ entry ∈ entries := by
  induction entries with
  | nil => exact .inl (List.mem_singleton.mp member)
  | cons head rest ih =>
    unfold assignSorted at member
    split at member
    · simpa using member
    · split at member
      · rcases List.mem_cons.mp member with same | inside
        · exact .inl same
        · exact .inr (List.mem_cons_of_mem _ inside)
      · rcases List.mem_cons.mp member with same | inside
        · exact .inr (same ▸ List.mem_cons_self)
        · rcases ih inside with same | inside
          · exact .inl same
          · exact .inr (List.mem_cons_of_mem _ inside)

theorem assignSorted_sorted (key : κ) (value : ν) (entries : List (κ × ν))
    (sorted : entries.Pairwise fun first second => first.1 < second.1) :
    (assignSorted key value entries).Pairwise fun first second => first.1 < second.1 := by
  induction entries with
  | nil => simp [assignSorted]
  | cons head rest ih =>
    obtain ⟨least, tail⟩ := List.pairwise_cons.mp sorted
    unfold assignSorted
    split
    · rename_i below
      refine List.pairwise_cons.mpr ⟨?_, sorted⟩
      intro entry member
      rcases List.mem_cons.mp member with rfl | member
      · exact below
      · exact lt_trans below (least entry member)
    · split
      · rename_i same
        refine List.pairwise_cons.mpr ⟨?_, tail⟩
        intro entry member
        show key < entry.1
        rw [same]
        exact least entry member
      · rename_i notBelow different
        refine List.pairwise_cons.mpr ⟨?_, ih tail⟩
        intro entry member
        rcases mem_assignSorted member with rfl | member
        · exact lt_of_le_of_ne (not_lt.mp notBelow) (Ne.symm different)
        · exact least entry member

theorem lookup_assignSorted (key other : κ) (value : ν) (entries : List (κ × ν)) :
    lookup other (assignSorted key value entries) = if key = other then some value else lookup other entries := by
  induction entries with
  | nil => exact lookup_cons other key value []
  | cons head rest ih =>
    obtain ⟨name, old⟩ := head
    unfold assignSorted
    split
    · rw [lookup_cons]
    · split
      · rename_i same
        subst same
        rw [lookup_cons, lookup_cons]
        by_cases here : key = other <;> simp [here]
      · rename_i different
        rw [lookup_cons, lookup_cons, ih]
        by_cases here : key = other
        · have apart : name ≠ other := fun same => different (here.trans same.symm)
          simp [here, apart]
        · simp [here]

/-- `map[key] = value`. -/
def assign (key : κ) (value : ν) (map : OrderedMap κ ν) : OrderedMap κ ν :=
  ⟨assignSorted key value map.entries, assignSorted_sorted key value _ map.sorted⟩

/-- A change of the value under a key, where there is one. -/
def modify (key : κ) (change : ν → ν) (map : OrderedMap κ ν) : OrderedMap κ ν :=
  ⟨map.entries.map fun entry => (entry.1, if entry.1 = key then change entry.2 else entry.2),
    List.pairwise_map.mpr map.sorted⟩

def ofList (pairs : List (κ × ν)) : OrderedMap κ ν :=
  pairs.foldl (fun map pair => map.assign pair.1 pair.2) .empty

@[simp] theorem find?_empty (key : κ) : (empty : OrderedMap κ ν).find? key = none := rfl

@[simp] theorem find?_assign (key other : κ) (value : ν) (map : OrderedMap κ ν) :
    (map.assign key value).find? other = if key = other then some value else map.find? other :=
  lookup_assignSorted key other value map.entries

@[simp] theorem find?_modify (key other : κ) (change : ν → ν) (map : OrderedMap κ ν) :
    (map.modify key change).find? other = if key = other then (map.find? other).map change else map.find? other := by
  have mapped : ∀ entries : List (κ × ν),
      lookup other (entries.map fun entry => (entry.1, if entry.1 = key then change entry.2 else entry.2)) =
        if key = other then (lookup other entries).map change else lookup other entries := by
    intro entries
    induction entries with
    | nil => simp [lookup]
    | cons head rest ih =>
      obtain ⟨name, old⟩ := head
      rw [List.map_cons, lookup_cons, lookup_cons, ih]
      by_cases here : name = other
      · subst here
        by_cases same : key = name <;> simp [same, eq_comm]
      · simp [here]
  exact mapped map.entries

theorem mem_entries {key : κ} {value : ν} {map : OrderedMap κ ν} :
    (key, value) ∈ map.entries ↔ map.find? key = some value := by
  have held : ∀ entries : List (κ × ν), (entries.Pairwise fun first second => first.1 < second.1) →
      ((key, value) ∈ entries ↔ lookup key entries = some value) := by
    intro entries sorted
    induction entries with
    | nil => simp [lookup]
    | cons head rest ih =>
      obtain ⟨name, old⟩ := head
      obtain ⟨least, tail⟩ := List.pairwise_cons.mp sorted
      rw [lookup_cons, List.mem_cons, Prod.mk.injEq, ih tail]
      by_cases here : name = key
      · subst here
        have absent : lookup name rest ≠ some value := by
          intro found
          exact lt_irrefl name (least _ ((ih tail).mpr found))
        simp [absent, eq_comm]
      · simp [here, Ne.symm here]
  exact held map.entries map.sorted

theorem nodup_keys (map : OrderedMap κ ν) : (map.entries.map (·.1)).Nodup := by
  refine List.pairwise_map.mpr (map.sorted.imp ?_)
  intro first second below
  exact ne_of_lt below

end OrderedMap
