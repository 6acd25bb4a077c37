import ChatProject.Library.Numeral

namespace ChatModel

namespace Client

def bar : UInt8 := 124

/-- What `parse_line` leaves behind: its result, the two variables and the text on the error stream. -/
structure LineResult where
  accepted : Bool
  id : UInt32
  body : Bytes
  cerr : Bytes := []
deriving DecidableEq, Repr

/-- A line `id|json`, split at the first bar. -/
def parseLine (line : Bytes) (id : UInt32) (body : Bytes) : LineResult :=
  match line.findIdx? (· = bar) with
  | none =>
    { accepted := false, id, body, cerr := bytesOf "格式错误,应为 <id>|<json内容> ,已跳过: " ++ line ++ bytesOf "\n" }
  | some pos =>
    let idStr := line.take pos
    let body := line.drop (pos + 1)
    let invalid : LineResult :=
      { accepted := false, id, body, cerr := bytesOf "id 不是合法数字,已跳过: " ++ line ++ bytesOf "\n" }
    match Numeral.stoul idStr with
    | .ok (parsed, consumed) => if consumed ≠ idStr.length then invalid else { accepted := true, id := parsed.toUInt32, body }
    | .error _ => invalid

end Client

end ChatModel

namespace ChatProof

open ChatModel ChatModel.Client Numeral

/-- The text in front of the first bar, and the text behind it. -/
def SplitsAt (line before rest : Bytes) : Prop := line = before ++ bar :: rest ∧ bar ∉ before

theorem splitsAt_unique {line before rest other behind : Bytes} (first : SplitsAt line before rest)
    (second : SplitsAt line other behind) : before = other ∧ rest = behind := by
  obtain ⟨split, absent⟩ := first
  obtain ⟨same, missing⟩ := second
  have taken : ∀ {front back : Bytes}, bar ∉ front → (front ++ bar :: back).takeWhile (· ≠ bar) = front := by
    intro front back without
    have passes : ∀ c ∈ front, decide (c ≠ bar) = true := by
      intro c member
      apply decide_eq_true
      rintro rfl
      exact without member
    rw [List.takeWhile_append_of_pos passes]
    simp
  have fronts : before = other := by
    rw [← taken absent, ← taken missing, ← split, ← same]
  subst fronts
  rw [split] at same
  have tails := List.append_cancel_left same
  exact ⟨rfl, (List.cons.inj tails).2⟩

theorem parseLine_none {line : Bytes} (missing : bar ∉ line) (id : UInt32) (body : Bytes) : (parseLine line id body).accepted = false := by
  have nowhere : line.findIdx? (· = bar) = none := by
    rw [List.findIdx?_eq_none_iff]
    intro c member
    apply decide_eq_false
    rintro rfl
    exact missing member
  unfold parseLine
  rw [nowhere]

section Split

variable {line before rest : Bytes} (split : SplitsAt line before rest) (id : UInt32) (body : Bytes)

include split

theorem findIdx_split : line.findIdx? (· = bar) = some before.length := by
  obtain ⟨whole, absent⟩ := split
  have nowhere : before.findIdx? (· = bar) = none := by
    rw [List.findIdx?_eq_none_iff]
    intro c member
    apply decide_eq_false
    rintro rfl
    exact absent member
  rw [whole, List.findIdx?_append, nowhere, List.findIdx?_cons]
  simp

theorem parseLine_read {number : UInt64} (read : stoul before = .ok (number, before.length)) :
    parseLine line id body = { accepted := true, id := number.toUInt32, body := rest } := by
  have found := findIdx_split split
  have front : line.take before.length = before := by
    rw [split.1, List.take_left]
  have behind : line.drop (before.length + 1) = rest := by
    rw [split.1, List.drop_append, List.drop_eq_nil_of_le (Nat.le_succ _)]
    simp
  unfold parseLine
  rw [found]
  dsimp only
  rw [front, read, behind]
  simp

theorem parseLine_refused (unread : ∀ number, stoul before ≠ .ok (number, before.length)) :
    (parseLine line id body).accepted = false := by
  have found := findIdx_split split
  have front : line.take before.length = before := by
    rw [split.1, List.take_left]
  unfold parseLine
  rw [found]
  dsimp only
  rw [front]
  cases read : stoul before with
  | error exception => rfl
  | ok result =>
    obtain ⟨number, consumed⟩ := result
    have part : consumed ≠ before.length := by
      rintro rfl
      exact unread number read
    dsimp only
    rw [if_pos part]

/-- The line is accepted exactly if `std::stoul` takes the whole text in front of the bar. -/
theorem parseLine_accepted : (parseLine line id body).accepted = true ↔
    ∃ blanks mark digits, WrittenAs before blanks mark digits ∧ value digits < 2 ^ 64 := by
  constructor
  · intro accepted
    by_contra other
    have unread : ∀ number, stoul before ≠ .ok (number, before.length) := fun number read => other (written_of_stoul read)
    rw [parseLine_refused split id body unread] at accepted
    cases accepted
  · rintro ⟨blanks, mark, digits, written, bound⟩
    have read := stoul_written written
    rw [if_neg (Nat.not_le.mpr bound)] at read
    rw [parseLine_read split id body read]

end Split

/-- The line is accepted exactly if a numeral below 2^32 stands in front of the first bar, and the result is its value and the
    text behind that bar. -/
structure ReadsLine (line : Bytes) (id : UInt32) (body : Bytes) : Prop where
  accepts : (parseLine line id body).accepted = true ↔
    ∃ numeral rest, SplitsAt line numeral rest ∧ IsNumeral numeral ∧ value numeral < 2 ^ 32
  reads : (parseLine line id body).accepted = true → ∀ numeral rest, SplitsAt line numeral rest →
    (parseLine line id body).id.toNat = value numeral ∧ (parseLine line id body).body = rest

/-- A text that `std::stoul` takes although it has blanks or a sign in front or does not fit 32 bits. -/
def Lenient (text : Bytes) : Prop := ∃ blanks mark digits, WrittenAs text blanks mark digits ∧ value digits < 2 ^ 64 ∧
  (blanks ≠ [] ∨ mark ≠ [] ∨ 2 ^ 32 ≤ value digits)

theorem not_lenient {text : Bytes} (numeral : IsNumeral text) (bound : value text < 2 ^ 32) : ¬ Lenient text := by
  rintro ⟨blanks, mark, digits, written, _, more⟩
  obtain ⟨noBlanks, noMark⟩ := written.plain numeral
  subst noBlanks noMark
  have same : text = digits := written.text_eq
  rw [← same] at more
  rcases more with more | more | more
  · exact more rfl
  · exact more rfl
  · omega

theorem plain_of_written {text blanks mark digits : Bytes} (written : WrittenAs text blanks mark digits) (bound : value digits < 2 ^ 64)
    (strict : ¬ Lenient text) : IsNumeral text ∧ value text < 2 ^ 32 := by
  by_cases plain : blanks = [] ∧ mark = [] ∧ value digits < 2 ^ 32
  · obtain ⟨rfl, rfl, small⟩ := plain
    have same : text = digits := written.text_eq
    rw [same]
    exact ⟨written.numeral, small⟩
  · exfalso
    apply strict
    refine ⟨blanks, mark, digits, written, bound, ?_⟩
    by_contra more
    apply plain
    refine ⟨?_, ?_, ?_⟩
    · by_contra other
      exact more (.inl other)
    · by_contra other
      exact more (.inr (.inl other))
    · by_contra other
      exact more (.inr (.inr (Nat.not_lt.mp other)))

theorem parse_line_reads (line : Bytes) (id : UInt32) (body : Bytes) :
    ReadsLine line id body ↔ ∀ before rest, SplitsAt line before rest → ¬ Lenient before := by
  constructor
  · intro reading before rest split lenient
    have ⟨blanks, mark, digits, written, bound, _⟩ := lenient
    have accepted := (parseLine_accepted split id body).mpr ⟨blanks, mark, digits, written, bound⟩
    obtain ⟨numeral, behind, other, plain, small⟩ := reading.accepts.mp accepted
    obtain ⟨rfl, rfl⟩ := splitsAt_unique split other
    exact not_lenient plain small lenient
  · intro strict
    by_cases present : bar ∈ line
    · obtain ⟨before, rest, whole, absent⟩ := List.eq_append_cons_of_mem present
      have split : SplitsAt line before rest := ⟨whole, absent⟩
      constructor
      · rw [parseLine_accepted split]
        constructor
        · rintro ⟨blanks, mark, digits, written, bound⟩
          obtain ⟨plain, small⟩ := plain_of_written written bound (strict before rest split)
          exact ⟨before, rest, split, plain, small⟩
        · rintro ⟨numeral, behind, other, plain, small⟩
          obtain ⟨rfl, rfl⟩ := splitsAt_unique split other
          exact ⟨[], [], before, plain.written, by omega⟩
      · intro accepted numeral behind other
        obtain ⟨rfl, rfl⟩ := splitsAt_unique split other
        obtain ⟨blanks, mark, digits, written, bound⟩ := (parseLine_accepted split id body).mp accepted
        obtain ⟨plain, small⟩ := plain_of_written written bound (strict before rest split)
        have read := stoul_written plain.written
        rw [if_neg (by omega), if_neg (by decide)] at read
        rw [parseLine_read split id body read]
        refine ⟨?_, rfl⟩
        have exact64 : value before % 2 ^ 64 = value before := Nat.mod_eq_of_lt (by omega)
        have exact32 : value before % 2 ^ 32 = value before := Nat.mod_eq_of_lt small
        show ((UInt64.ofNat (value before)).toUInt32).toNat = value before
        rw [UInt64.toNat_toUInt32, UInt64.toNat_ofNat', exact64, exact32]
    · have refused := parseLine_none present id body
      constructor
      · rw [refused]
        constructor
        · nofun
        · rintro ⟨numeral, rest, split, _⟩
          exact absurd (split.1 ▸ List.mem_append_right _ List.mem_cons_self) present
      · intro accepted
        rw [refused] at accepted
        cases accepted

/-- `-1|x` is accepted, with the id 4294967295. -/
theorem parse_line_takes_sign : ¬ ∀ line id body, ReadsLine line id body := by
  intro claim
  have holds := claim (bytesOf "-1|x") 0 []
  have split : SplitsAt (bytesOf "-1|x") (bytesOf "-1") (bytesOf "x") := ⟨by decide, by decide⟩
  have accepted : (parseLine (bytesOf "-1|x") 0 []).accepted = true := by decide
  obtain ⟨numeral, rest, other, plain, _⟩ := holds.accepts.mp accepted
  obtain ⟨rfl, rfl⟩ := splitsAt_unique split other
  exact absurd (plain.digits minus (by decide)) (by decide)

end ChatProof
