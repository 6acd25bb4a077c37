import ChatProject.Library.Text

/-! Decimal numerals, and how `std::stoul` reads them in the C locale. -/

namespace Numeral

def isDigit (c : UInt8) : Bool := 48 ≤ c && c ≤ 57

def isSpace (c : UInt8) : Bool := c = 32 || 9 ≤ c && c ≤ 13

def minus : UInt8 := 45
def plus : UInt8 := 43

def value (digits : Bytes) : Nat := Nat.ofDigits 10 (digits.reverse.map fun c => c.toNat - 48)

/-- A decimal numeral without a sign. -/
structure IsNumeral (text : Bytes) : Prop where
  nonempty : text ≠ []
  digits : ∀ c ∈ text, isDigit c = true

/-- The exceptions that `std::stoul` throws. -/
inductive StoulError where
  | invalidArgument
  | outOfRange
deriving DecidableEq, Repr

/-- The sign in front, and whether it negates. -/
def sign : Bytes → Bool × Bytes
  | [] => (false, [])
  | c :: rest => if c = minus then (true, rest) else if c = plus then (false, rest) else (false, c :: rest)

/-- The number, and how many characters belong to it. A minus negates modulo 2^64. -/
def stoul (text : Bytes) : Except StoulError (UInt64 × Nat) :=
  let (negative, rest) := sign (text.dropWhile isSpace)
  let digits := rest.takeWhile isDigit
  if digits = [] then .error .invalidArgument
  else if 2 ^ 64 ≤ value digits then .error .outOfRange
  else
    let magnitude := UInt64.ofNat (value digits)
    .ok (if negative = true then -magnitude else magnitude, text.length - rest.length + digits.length)

/-! ## The grammar of a whole text -/

def Sign (mark : Bytes) : Prop := mark = [] ∨ mark = [plus] ∨ mark = [minus]

/-- A text that consists of blanks, a sign and a numeral, where only the numeral has to be there. -/
structure WrittenAs (text blanks mark digits : Bytes) : Prop where
  text_eq : text = blanks ++ (mark ++ digits)
  blanks : ∀ c ∈ blanks, isSpace c = true
  mark : Sign mark
  numeral : IsNumeral digits

theorem not_isSpace_of_isDigit {c : UInt8} (digit : isDigit c = true) : isSpace c = false := by
  simp only [isDigit, Bool.and_eq_true, decide_eq_true_eq, UInt8.le_iff_toNat_le] at digit
  have lower : 48 ≤ c.toNat := digit.1
  have other : c ≠ 32 := by
    intro same
    subst same
    simp at lower
  have upper : ¬ c ≤ 13 := by
    rw [UInt8.le_iff_toNat_le]
    change ¬ c.toNat ≤ 13
    omega
  simp [isSpace, other, upper]

theorem ne_of_isDigit {c mark : UInt8} (digit : isDigit c = true) (other : isDigit mark = false) : c ≠ mark := by
  intro same
  rw [same, other] at digit
  cases digit

theorem takeWhile_digits {digits : Bytes} (numeral : ∀ c ∈ digits, isDigit c = true) : digits.takeWhile isDigit = digits :=
  List.takeWhile_eq_self_iff.mpr numeral

/-- What the sign is, and that nothing else is taken away. -/
theorem sign_split (text : Bytes) : ∃ mark, Sign mark ∧ text = mark ++ (sign text).2 ∧ ((sign text).1 = true ↔ mark = [minus]) := by
  cases text with
  | nil => exact ⟨[], .inl rfl, rfl, by decide⟩
  | cons c rest =>
    by_cases negative : c = minus
    · subst negative
      exact ⟨[minus], .inr (.inr rfl), rfl, by simp [sign]⟩
    · by_cases positive : c = plus
      · subst positive
        have other : plus ≠ minus := by decide
        exact ⟨[plus], .inr (.inl rfl), rfl, by simp [sign, other]⟩
      · refine ⟨[], .inl rfl, ?_, ?_⟩
        · simp [sign, negative, positive]
        · simp [sign, negative, positive]

theorem sign_mark {mark digits : Bytes} (marked : Sign mark) (numeral : IsNumeral digits) :
    sign (mark ++ digits) = (decide (mark = [minus]), digits) := by
  rcases marked with rfl | rfl | rfl
  · obtain ⟨c, rest, same⟩ := List.exists_cons_of_ne_nil numeral.nonempty
    subst same
    have digit := numeral.digits c List.mem_cons_self
    have first : c ≠ minus := ne_of_isDigit digit rfl
    have second : c ≠ plus := ne_of_isDigit digit rfl
    simp [sign, first, second]
  · rfl
  · rfl

/-- Behind the blanks comes the sign or a digit. -/
theorem dropWhile_blanks {blanks mark digits : Bytes} (blank : ∀ c ∈ blanks, isSpace c = true) (marked : Sign mark)
    (numeral : IsNumeral digits) : (blanks ++ (mark ++ digits)).dropWhile isSpace = mark ++ digits := by
  rw [List.dropWhile_append_of_pos blank]
  rcases marked with rfl | rfl | rfl
  · obtain ⟨c, rest, same⟩ := List.exists_cons_of_ne_nil numeral.nonempty
    subst same
    have visible := not_isSpace_of_isDigit (numeral.digits c List.mem_cons_self)
    simp [visible]
  · rfl
  · rfl

theorem stoul_written {text blanks mark digits : Bytes} (written : WrittenAs text blanks mark digits) : stoul text =
    if 2 ^ 64 ≤ value digits then .error .outOfRange
    else .ok (if mark = [minus] then -UInt64.ofNat (value digits) else UInt64.ofNat (value digits), text.length) := by
  have behind := dropWhile_blanks written.blanks written.mark written.numeral
  have long : text.length - digits.length + digits.length = text.length := by
    rw [written.text_eq]
    simp only [List.length_append]
    omega
  unfold stoul
  rw [written.text_eq, behind, sign_mark written.mark written.numeral, ← written.text_eq]
  dsimp only
  rw [takeWhile_digits written.numeral.digits, if_neg written.numeral.nonempty, long]
  simp only [decide_eq_true_eq]

/-- When `std::stoul` takes the whole text, it is written like this. -/
theorem written_of_stoul {text : Bytes} {number : UInt64} (read : stoul text = .ok (number, text.length)) :
    ∃ blanks mark digits, WrittenAs text blanks mark digits ∧ value digits < 2 ^ 64 := by
  let rest := text.dropWhile isSpace
  let digits := (sign rest).2.takeWhile isDigit
  obtain ⟨mark, marked, split, _⟩ := sign_split rest
  have whole : text = text.takeWhile isSpace ++ (mark ++ (sign rest).2) := by
    rw [← split]
    exact (List.takeWhile_append_dropWhile).symm
  have size := congrArg List.length whole
  simp only [List.length_append] at size
  have unfolded : (if digits = [] then .error .invalidArgument
      else if 2 ^ 64 ≤ value digits then .error .outOfRange
      else .ok (if (sign rest).1 = true then -UInt64.ofNat (value digits) else UInt64.ofNat (value digits),
        text.length - (sign rest).2.length + digits.length) : Except StoulError (UInt64 × Nat)) = .ok (number, text.length) := read
  by_cases empty : digits = []
  · rw [if_pos empty] at unfolded
    cases unfolded
  rw [if_neg empty] at unfolded
  by_cases large : 2 ^ 64 ≤ value digits
  · rw [if_pos large] at unfolded
    cases unfolded
  rw [if_neg large] at unfolded
  have consumed : text.length - (sign rest).2.length + digits.length = text.length :=
    congrArg Prod.snd (Except.ok.inj unfolded)
  have all : digits = (sign rest).2 := by
    apply (List.takeWhile_prefix isDigit).eq_of_length
    change digits.length = _
    omega
  have passes : ∀ c ∈ digits, isDigit c = true := fun c member => List.mem_takeWhile_imp member
  refine ⟨text.takeWhile isSpace, mark, digits, ⟨?_, fun c member => List.mem_takeWhile_imp member, marked, empty, passes⟩, by omega⟩
  rw [all]
  exact whole

/-- A numeral has no blanks and no sign. -/
theorem WrittenAs.plain {text blanks mark digits : Bytes} (written : WrittenAs text blanks mark digits) (numeral : IsNumeral text) :
    blanks = [] ∧ mark = [] := by
  have passes := numeral.digits
  rw [written.text_eq] at passes
  constructor
  · cases blanks with
    | nil => rfl
    | cons c blanks =>
      have digit := passes c List.mem_cons_self
      have blank := written.blanks c List.mem_cons_self
      rw [not_isSpace_of_isDigit digit] at blank
      cases blank
  · have member : ∀ c ∈ mark, isDigit c = true := fun c member => passes c (by simp [member])
    rcases written.mark with rfl | rfl | rfl
    · rfl
    · exact absurd (member plus List.mem_cons_self) (by decide)
    · exact absurd (member minus List.mem_cons_self) (by decide)

theorem IsNumeral.written {text : Bytes} (numeral : IsNumeral text) : WrittenAs text [] [] text :=
  ⟨rfl, nofun, .inl rfl, numeral⟩

end Numeral
