import ChatProject.Library.Text

/-- A JSON document whose numbers are of type `ν`. -/
inductive Json (ν : Type) where
  | null
  | bool (value : Bool)
  | num (value : ν)
  | str (value : String)
  | arr (items : List (Json ν))
  | obj (fields : List (String × Json ν))

namespace Json

variable {ν : Type}

/-- Store a field in an object whose fields are kept in the order of their names. -/
def insertField (name : String) (value : Json ν) : List (String × Json ν) → List (String × Json ν)
  | [] => [(name, value)]
  | (other, old) :: rest =>
    if name < other then (name, value) :: (other, old) :: rest
    else if name = other then (name, value) :: rest
    else (other, old) :: insertField name value rest

/-- `j[name] = value`, which turns null into an object first. -/
def set (document : Json ν) (name : String) (value : Json ν) : Json ν :=
  match document with
  | .obj fields => .obj (insertField name value fields)
  | _ => .obj [(name, value)]

def field? (name : String) : Json ν → Option (Json ν)
  | .obj fields => (fields.find? (·.1 = name)).map (·.2)
  | _ => none

def string? : Json ν → Option String
  | .str value => some value
  | _ => none

def array? : Json ν → Option (List (Json ν))
  | .arr items => some items
  | _ => none

/-! ## Compact text -/

def hexDigit (n : Nat) : Char := if n < 10 then Char.ofNat (48 + n) else Char.ofNat (87 + n)

def escapeChar (c : Char) : List Char :=
  if c = '"' then ['\\', '"']
  else if c = '\\' then ['\\', '\\']
  else if c = '\x08' then ['\\', 'b']
  else if c = '\x0c' then ['\\', 'f']
  else if c = '\n' then ['\\', 'n']
  else if c = '\r' then ['\\', 'r']
  else if c = '\t' then ['\\', 't']
  else if c.toNat < 0x20 then
    ['\\', 'u', '0', '0', hexDigit (c.toNat / 16), hexDigit (c.toNat % 16)]
  else [c]

def quoted (text : String) : List Char := '"' :: (text.toList.flatMap escapeChar ++ ['"'])

mutual

def chars : Json Int → List Char
  | .null => ['n', 'u', 'l', 'l']
  | .bool true => ['t', 'r', 'u', 'e']
  | .bool false => ['f', 'a', 'l', 's', 'e']
  | .num value => value.repr.toList
  | .str value => quoted value
  | .arr items => '[' :: (itemsChars items ++ [']'])
  | .obj fields => '{' :: (fieldsChars fields ++ ['}'])

def itemsChars : List (Json Int) → List Char
  | [] => []
  | item :: rest => item.chars ++ (if rest.isEmpty then [] else ',' :: itemsChars rest)

def fieldsChars : List (String × Json Int) → List Char
  | [] => []
  | (name, value) :: rest =>
    quoted name ++ ':' :: value.chars ++ (if rest.isEmpty then [] else ',' :: fieldsChars rest)

end

/-- The compact text: no blanks, non-ASCII characters as they are. -/
def dump (document : Json Int) : String := String.ofList document.chars

/-! ## The compact text has no NUL -/

theorem hexDigit_visible {n : Nat} (bound : n < 16) : hexDigit n ≠ '\x00' := by
  have all : ∀ k : Fin 16, hexDigit k.val ≠ '\x00' := by decide
  exact all ⟨n, bound⟩

theorem escapeChar_visible (c : Char) : '\x00' ∉ escapeChar c := by
  unfold escapeChar
  repeat' split
  case isFalse.isFalse.isFalse.isFalse.isFalse.isFalse.isFalse.isTrue low =>
    have first := hexDigit_visible (n := c.toNat / 16) (by omega)
    have second := hexDigit_visible (n := c.toNat % 16) (by omega)
    simp [first.symm, second.symm]
  case isFalse.isFalse.isFalse.isFalse.isFalse.isFalse.isFalse.isFalse high =>
    intro member
    have same : '\x00' = c := by simpa using member
    subst same
    exact high (by decide)
  all_goals decide

theorem quoted_visible (text : String) : '\x00' ∉ quoted text := by
  intro member
  simp only [quoted, List.mem_cons, List.mem_append, List.mem_flatMap, List.not_mem_nil, or_false] at member
  rcases member with quote | ⟨c, _, escaped⟩ | quote
  · exact absurd quote (by decide)
  · exact escapeChar_visible c escaped
  · exact absurd quote (by decide)

theorem digits_visible (n : Nat) : '\x00' ∉ n.repr.toList := by
  intro member
  rw [Nat.toList_repr] at member
  have digit := Nat.isDigit_of_mem_toDigits (by decide) (by decide) member
  exact absurd digit (by decide)

theorem repr_visible (value : Int) : '\x00' ∉ value.repr.toList := by
  cases value with
  | ofNat n => exact digits_visible n
  | negSucc n =>
    have digits := digits_visible (n + 1)
    simpa [Int.repr] using digits

mutual

theorem chars_visible (document : Json Int) : '\x00' ∉ document.chars := by
  match document with
  | .null => simp [chars]
  | .bool true => simp [chars]
  | .bool false => simp [chars]
  | .num value => simpa [chars] using repr_visible value
  | .str value => simpa [chars] using quoted_visible value
  | .arr items => simpa [chars] using itemsChars_visible items
  | .obj fields => simpa [chars] using fieldsChars_visible fields

theorem itemsChars_visible (items : List (Json Int)) : '\x00' ∉ itemsChars items := by
  match items with
  | [] => simp [itemsChars]
  | item :: rest =>
    have first := chars_visible item
    have others := itemsChars_visible rest
    unfold itemsChars
    split <;> simp [first, others]

theorem fieldsChars_visible (fields : List (String × Json Int)) : '\x00' ∉ fieldsChars fields := by
  match fields with
  | [] => simp [fieldsChars]
  | (name, value) :: rest =>
    have label := quoted_visible name
    have first := chars_visible value
    have others := fieldsChars_visible rest
    unfold fieldsChars
    split <;> simp [label, first, others]

end

theorem dump_visible (document : Json Int) : '\x00' ∉ document.dump.toList := by
  simpa [dump] using chars_visible document

/-! ## How long the compact text is -/

def size (document : Json Int) : Nat := utf8Length document.chars

theorem length_bytesOf_dump (document : Json Int) : (bytesOf document.dump).length = document.size := by
  rw [length_bytesOf, dump, String.toList_ofList, size]

def numberSize (value : Int) : Nat := utf8Length value.repr.toList

def charSize (c : Char) : Nat := utf8Length (escapeChar c)

/-- The size of a text with its quotes. -/
def textSize (text : String) : Nat := (text.toList.map charSize).sum + 2

/-- The size of a list whose items have these sizes, with its brackets and commas. -/
def listSize (sizes : List Nat) : Nat := sizes.sum + (sizes.length - 1) + 2

theorem size_quoted (text : String) : utf8Length (quoted text) = textSize text := by
  have escaped : ∀ chars : List Char, utf8Length (chars.flatMap escapeChar) = (chars.map charSize).sum := by
    intro chars
    induction chars with
    | nil => rfl
    | cons c rest ih => rw [List.flatMap_cons, utf8Length_append, ih, List.map_cons, List.sum_cons, charSize]
  have quote : Char.utf8Size '"' = 1 := by decide
  simp only [quoted, utf8Length_cons, utf8Length_append, escaped, utf8Length_nil, quote, textSize]
  omega

@[simp] theorem size_num (value : Int) : (num value).size = numberSize value := by
  rw [size, chars, numberSize]

@[simp] theorem size_str (value : String) : (str value).size = textSize value := by
  rw [size, chars, size_quoted]

theorem size_items (items : List (Json Int)) :
    utf8Length (itemsChars items) = (items.map size).sum + (items.length - 1) := by
  have comma : Char.utf8Size ',' = 1 := by decide
  induction items with
  | nil => rfl
  | cons item rest ih =>
    rw [itemsChars, utf8Length_append, List.map_cons, List.sum_cons, size]
    cases rest with
    | nil => rfl
    | cons next rest =>
      simp only [List.isEmpty_cons, Bool.false_eq_true, if_false, utf8Length_cons, ih, comma, List.length_cons]
      omega

theorem size_fields (fields : List (String × Json Int)) : utf8Length (fieldsChars fields) =
    (fields.map fun field => textSize field.1 + field.2.size + 1).sum + (fields.length - 1) := by
  have comma : Char.utf8Size ',' = 1 := by decide
  have colon : Char.utf8Size ':' = 1 := by decide
  induction fields with
  | nil => rfl
  | cons field rest ih =>
    obtain ⟨name, value⟩ := field
    rw [fieldsChars, List.map_cons, List.sum_cons]
    cases rest with
    | nil =>
      simp only [List.isEmpty_nil, if_true, utf8Length_append, utf8Length_cons, utf8Length_nil, size_quoted, size, colon,
        List.map_nil, List.sum_nil, List.length_cons, List.length_nil]
      omega
    | cons next rest =>
      simp only [List.isEmpty_cons, Bool.false_eq_true, if_false, utf8Length_append, utf8Length_cons, size_quoted, ih, size,
        colon, comma, List.length_cons]
      omega

@[simp] theorem size_arr (items : List (Json Int)) : (arr items).size = listSize (items.map size) := by
  have opening : Char.utf8Size '[' = 1 := by decide
  have closing : Char.utf8Size ']' = 1 := by decide
  rw [size, chars, utf8Length_cons, utf8Length_append, size_items, listSize, List.length_map, utf8Length_cons, utf8Length_nil]
  omega

@[simp] theorem size_obj (fields : List (String × Json Int)) :
    (obj fields).size = listSize (fields.map fun field => textSize field.1 + field.2.size + 1) := by
  have opening : Char.utf8Size '\x7b' = 1 := by decide
  have closing : Char.utf8Size '\x7d' = 1 := by decide
  rw [size, chars, utf8Length_cons, utf8Length_append, size_fields, listSize, List.length_map, utf8Length_cons, utf8Length_nil]
  omega

end Json
