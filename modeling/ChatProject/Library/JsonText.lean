import ChatProject.Library.Json

/-! What the compact text of a document tells of the document. -/

namespace Json

def hexValue (c : Char) : Nat := if c.toNat < 58 then c.toNat - 48 else c.toNat - 87

/-- The first character that an escaped text stands for. -/
def unescape : List Char → Option (Char × List Char)
  | [] => none
  | c :: rest =>
    if c ≠ '\\' then some (c, rest)
    else
      match rest with
      | 'u' :: _ :: _ :: high :: low :: rest => some (Char.ofNat (16 * hexValue high + hexValue low), rest)
      | 'b' :: rest => some ('\x08', rest)
      | 'f' :: rest => some ('\x0c', rest)
      | 'n' :: rest => some ('\n', rest)
      | 'r' :: rest => some ('\r', rest)
      | 't' :: rest => some ('\t', rest)
      | c :: rest => some (c, rest)
      | [] => none

theorem hexValue_digits {n : Nat} (low : n < 32) : 16 * hexValue (hexDigit (n / 16)) + hexValue (hexDigit (n % 16)) = n := by
  have all : ∀ k : Fin 32, 16 * hexValue (hexDigit (k.val / 16)) + hexValue (hexDigit (k.val % 16)) = k.val := by decide
  exact all ⟨n, low⟩

theorem unescape_escapeChar (c : Char) (rest : List Char) : unescape (escapeChar c ++ rest) = some (c, rest) := by
  unfold escapeChar
  repeat' split
  case isFalse.isFalse.isFalse.isFalse.isFalse.isFalse.isFalse.isTrue low =>
    simp only [unescape, List.cons_append, List.nil_append, ne_eq, not_true_eq_false, if_false, hexValue_digits low, Char.ofNat_toNat]
  case isFalse.isFalse.isFalse.isFalse.isFalse.isFalse.isFalse.isFalse plain _ _ _ _ _ high =>
    simp [unescape, plain]
  all_goals
    rename_i same
    subst same
    rfl

theorem escapeChar_ne_quote (c : Char) (rest : List Char) {text : List Char} (same : escapeChar c ++ rest = '"' :: text) : False := by
  have head := unescape_escapeChar c rest
  rw [same] at head
  have quote : unescape ('"' :: text) = some ('"', text) := rfl
  rw [quote] at head
  cases head
  have escaped : escapeChar '"' = ['\\', '"'] := rfl
  rw [escaped] at same
  cases same

/-- Where a quoted text ends can be seen from the text. -/
theorem quoted_append_inj {first second : String} {rest other : List Char}
    (same : quoted first ++ rest = quoted second ++ other) : first = second ∧ rest = other := by
  have chars : ∀ left right : List Char,
      left.flatMap escapeChar ++ '"' :: rest = right.flatMap escapeChar ++ '"' :: other → left = right ∧ rest = other := by
    intro left
    induction left with
    | nil =>
      intro right same
      cases right with
      | nil => exact ⟨rfl, (List.cons.inj same).2⟩
      | cons c right =>
        rw [List.flatMap_cons, List.append_assoc] at same
        exact (escapeChar_ne_quote c _ same.symm).elim
    | cons c left ih =>
      intro right same
      cases right with
      | nil =>
        rw [List.flatMap_cons, List.append_assoc] at same
        exact (escapeChar_ne_quote c _ same).elim
      | cons d right =>
        rw [List.flatMap_cons, List.flatMap_cons, List.append_assoc, List.append_assoc] at same
        have heads := congrArg unescape same
        rw [unescape_escapeChar, unescape_escapeChar] at heads
        obtain ⟨rfl, tails⟩ := Prod.mk.inj (Option.some.inj heads)
        obtain ⟨rfl, ends⟩ := ih right tails
        exact ⟨rfl, ends⟩
  have inner : first.toList.flatMap escapeChar ++ '"' :: rest = second.toList.flatMap escapeChar ++ '"' :: other := by
    simpa [quoted] using same
  obtain ⟨lists, ends⟩ := chars _ _ inner
  exact ⟨String.toList_inj.mp lists, ends⟩

theorem repr_no_comma (value : Int) : ',' ∉ value.repr.toList := by
  have digits : ∀ n : Nat, ',' ∉ n.repr.toList := by
    intro n member
    rw [Nat.toList_repr] at member
    have digit := Nat.isDigit_of_mem_toDigits (by decide) (by decide) member
    exact absurd digit (by decide)
  cases value with
  | ofNat n => exact digits n
  | negSucc n =>
    have there := digits (n + 1)
    simpa [Int.repr] using there

/-- A number ends at the comma behind it. -/
theorem repr_append_inj {first second : Int} {rest other : List Char}
    (same : first.repr.toList ++ ',' :: rest = second.repr.toList ++ ',' :: other) : first = second ∧ rest = other := by
  have digits : ∀ (value : Int) (tail : List Char),
      (value.repr.toList ++ ',' :: tail).takeWhile (· ≠ ',') = value.repr.toList := by
    intro value tail
    have passes : ∀ c ∈ value.repr.toList, decide (c ≠ ',') = true := by
      intro c member
      apply decide_eq_true
      rintro rfl
      exact repr_no_comma value member
    rw [List.takeWhile_append_of_pos passes]
    simp
  have fronts := congrArg (List.takeWhile (· ≠ ',')) same
  rw [digits, digits] at fronts
  obtain rfl := Int.repr_inj.mp (String.toList_inj.mp fronts)
  exact ⟨rfl, (List.cons.inj (List.append_cancel_left same)).2⟩

end Json
