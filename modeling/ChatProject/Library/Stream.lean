import Mathlib

/-! Reading a stream item by item, for as long as a whole item is there. -/

/-- What reads one item off the front of a stream, if there is one. -/
structure StreamReader (β α : Type) where
  read : List β → Option (α × List β)
  shrinks : ∀ {stream item rest}, read stream = some (item, rest) → rest.length < stream.length

namespace StreamReader

variable {β α γ : Type} (reader : StreamReader β α)

/-- All items that can be read, and what is left of the stream then. -/
def readAll (stream : List β) : List α × List β :=
  match taken : reader.read stream with
  | none => ([], stream)
  | some (item, rest) =>
    have := reader.shrinks taken
    (item :: (readAll rest).1, (readAll rest).2)
termination_by stream.length

variable {reader} {stream rest : List β} {item : α}

theorem readAll_none (stuck : reader.read stream = none) : reader.readAll stream = ([], stream) := by
  rw [readAll]
  split
  · rfl
  · rename_i taken
    rw [stuck] at taken
    cases taken

theorem readAll_some (taken : reader.read stream = some (item, rest)) :
    reader.readAll stream = (item :: (reader.readAll rest).1, (reader.readAll rest).2) := by
  rw [readAll]
  split
  · rename_i stuck
    rw [taken] at stuck
    cases stuck
  · rename_i first others found
    rw [taken] at found
    cases found
    rfl

/-- It stops only where there is no item to be read. -/
theorem readAll_stuck (stream : List β) : reader.read (reader.readAll stream).2 = none := by
  fun_induction readAll reader stream with
  | case1 stream stuck => exact stuck
  | case2 stream item rest taken shorter ih => exact ih

/-- These are the first items of the stream, and this is what comes after them. -/
inductive Takes (reader : StreamReader β α) (stream : List β) : List α → List β → Prop
  | none : Takes reader stream [] stream
  | next {items : List α} {item : α} {rest left : List β} : Takes reader stream items rest →
      reader.read rest = some (item, left) → Takes reader stream (items ++ [item]) left

theorem Takes.readAll {items : List α} (takes : reader.Takes stream items rest) :
    (reader.readAll stream).1 = items ++ (reader.readAll rest).1 := by
  induction takes with
  | none => rfl
  | next _ taken ih => rw [ih, readAll_some taken, List.append_assoc, List.singleton_append]

/-- What is added at the end of a stream comes after all that has been read, if an item is whole without it. -/
theorem Takes.append {items : List α}
    (whole : ∀ stream item rest more, reader.read stream = some (item, rest) → reader.read (stream ++ more) = some (item, rest ++ more))
    (takes : reader.Takes stream items rest) (more : List β) : reader.Takes (stream ++ more) items (rest ++ more) := by
  induction takes with
  | none => exact .none
  | next _ taken ih => exact ih.next (whole _ _ _ more taken)

/-- Two readers that agree on the first item agree on all of them. -/
theorem readAll_map {other : StreamReader β γ} {f : α → γ}
    (same : ∀ stream, other.read stream = (reader.read stream).map fun taken => (f taken.1, taken.2)) (stream : List β) :
    other.readAll stream = ((reader.readAll stream).1.map f, (reader.readAll stream).2) := by
  fun_induction readAll reader stream with
  | case1 stream stuck =>
    apply readAll_none
    rw [same, stuck]
    rfl
  | case2 stream item rest taken shorter ih =>
    have first : other.read stream = some (f item, rest) := by
      rw [same, taken]
      rfl
    rw [readAll_some first, ih, List.map_cons]

/-- Encoded items are read back, up to a place where nothing can be read. -/
theorem readAll_encoded {encode : γ → List β} {content : α → γ} {good : γ → Prop}
    (reads : ∀ value rest, good value → ∃ item, reader.read (encode value ++ rest) = some (item, rest) ∧ content item = value)
    {values : List γ} (all : ∀ value ∈ values, good value) (stuck : reader.read rest = none) :
    (reader.readAll (values.flatMap encode ++ rest)).1.map content = values ∧
      (reader.readAll (values.flatMap encode ++ rest)).2 = rest := by
  induction values with
  | nil =>
    rw [List.flatMap_nil, List.nil_append, readAll_none stuck]
    exact ⟨rfl, rfl⟩
  | cons value values ih =>
    obtain ⟨front, left⟩ := ih fun other member => all other (List.mem_cons_of_mem _ member)
    obtain ⟨item, taken, same⟩ := reads value (values.flatMap encode ++ rest) (all value List.mem_cons_self)
    rw [List.flatMap_cons, List.append_assoc, readAll_some taken]
    refine ⟨?_, left⟩
    rw [List.map_cons, same, front]

/-- Whatever the stream is, it is the items that were read and what is left. -/
theorem encode_readAll {encode : γ → List β} {content : α → γ} {good : γ → Prop}
    (whole : ∀ {stream item rest}, reader.read stream = some (item, rest) →
      stream = encode (content item) ++ rest ∧ good (content item)) (stream : List β) :
    stream = ((reader.readAll stream).1.map content).flatMap encode ++ (reader.readAll stream).2 ∧
      ∀ value ∈ (reader.readAll stream).1.map content, good value := by
  fun_induction readAll reader stream with
  | case1 stream stuck => exact ⟨rfl, nofun⟩
  | case2 stream item rest taken shorter ih =>
    obtain ⟨same, all⟩ := ih
    obtain ⟨front, isGood⟩ := whole taken
    constructor
    · rw [List.map_cons, List.flatMap_cons, List.append_assoc, ← same]
      exact front
    · intro value member
      rcases List.mem_cons.mp member with here | later
      · rw [here]
        exact isGood
      · exact all value later

end StreamReader
