import ChatProject.Library.Text

/-! How a POSIX shell splits a line into words and operators, and these into simple commands. Anything
    that needs more than single quotes, backslashes, blanks, operators and redirections is left out. -/

namespace Shell

def quote : UInt8 := 39
def backslash : UInt8 := 92
def newline : UInt8 := 10

def isBlank (c : UInt8) : Bool := c = 32 || c = 9

def isDigit (c : UInt8) : Bool := 48 ≤ c && c ≤ 57

def operators : List Bytes :=
  ["\n", ";", "&", "|", "<", ">", "(", ")", "&&", "||", ";;", "<<", ">>", "<&", ">&", "<>", "<<-", ">|"].map bytesOf

def redirectors : List Bytes := ["<", ">", ">>", "<&", ">&", "<>", ">|"].map bytesOf

/-- The operators between two commands. -/
def separators : List Bytes := ["\n", ";", "&", "|", "&&", "||"].map bytesOf

/-- Characters that mean something else where they are not quoted. -/
def special : Bytes := bytesOf "\"$`#*?[]~=\x7b\x7d!"

def reserved : List Bytes :=
  ["if", "then", "else", "elif", "fi", "do", "done", "case", "esac", "while", "until", "for", "in"].map bytesOf

inductive Token where
  | word (text : Bytes) (isQuoted : Bool)
  | ioNumber (digits : Bytes)
  | operator (text : Bytes)
deriving DecidableEq, Repr

/-- Where the lexer is: between tokens, in a word, in its quotes, behind a backslash, in an operator. -/
inductive Mode where
  | between
  | word (text : Bytes) (isQuoted : Bool)
  | quoted (text : Bytes)
  | escaped (before : Option (Bytes × Bool))
  | operator (text : Bytes)
deriving DecidableEq, Repr

/-- The first character of a token, or one between tokens. -/
def start (c : UInt8) : Option Mode :=
  if isBlank c then some .between
  else if c = quote then some (.quoted [])
  else if c = backslash then some (.escaped none)
  else if [c] ∈ operators then some (.operator [c])
  else if c ∈ special then none
  else some (.word [c] false)

/-- The word that ends in front of an operator. -/
def wordBefore (text : Bytes) (isQuoted : Bool) (c : UInt8) : Token :=
  if isQuoted = false ∧ text.all isDigit = true ∧ [c] ∈ redirectors then .ioNumber text else .word text isQuoted

def step : Mode → UInt8 → Option (List Token × Mode)
  | .between, c => (start c).map fun next => ([], next)
  | .word text isQuoted, c =>
    if isBlank c then some ([.word text isQuoted], .between)
    else if c = quote then some ([], .quoted text)
    else if c = backslash then some ([], .escaped (some (text, isQuoted)))
    else if [c] ∈ operators then some ([wordBefore text isQuoted c], .operator [c])
    else if c ∈ special then none
    else some ([], .word (text ++ [c]) isQuoted)
  | .quoted text, c => some ([], if c = quote then .word text true else .quoted (text ++ [c]))
  | .escaped none, c => some ([], if c = newline then .between else .word [c] true)
  | .escaped (some (text, isQuoted)), c =>
    some ([], if c = newline then .word text isQuoted else .word (text ++ [c]) true)
  | .operator text, c =>
    if text ++ [c] ∈ operators then some ([], .operator (text ++ [c]))
    else (start c).map fun next => ([.operator text], next)

/-- At the end of the line; a quote or a backslash that is still open has no meaning. -/
def finish : Mode → Option (List Token)
  | .between => some []
  | .word text isQuoted => some [.word text isQuoted]
  | .quoted _ | .escaped _ => none
  | .operator text => some [.operator text]

def lexFrom : Mode → Bytes → Option (List Token)
  | mode, [] => finish mode
  | mode, c :: rest =>
    match step mode c with
    | none => none
    | some (tokens, next) => (lexFrom next rest).map (tokens ++ ·)

def lex (line : Bytes) : Option (List Token) := lexFrom .between line

structure Redirection where
  descriptor : Option Bytes
  operator : Bytes
  target : Bytes
deriving DecidableEq, Repr

structure SimpleCommand where
  words : List Bytes := []
  redirections : List Redirection := []
deriving DecidableEq, Repr

namespace SimpleCommand

def addWord (text : Bytes) (command : SimpleCommand) : SimpleCommand :=
  { command with words := command.words ++ [text] }

def redirect (descriptor : Option Bytes) (operator target : Bytes) (command : SimpleCommand) : SimpleCommand :=
  { command with redirections := command.redirections ++ [⟨descriptor, operator, target⟩] }

end SimpleCommand

/-- The simple commands of a line, the first of them with what has been read of it already. -/
def commandsFrom : SimpleCommand → List Token → Option (List SimpleCommand)
  | command, [] => some [command]
  | command, .word text isQuoted :: rest =>
    if command.words = [] ∧ isQuoted = false ∧ text ∈ reserved then none
    else commandsFrom (command.addWord text) rest
  | command, .ioNumber digits :: .operator op :: .word target _ :: rest =>
    if op ∈ redirectors then commandsFrom (command.redirect (some digits) op target) rest else none
  | command, .operator op :: rest =>
    if op ∈ redirectors then
      match rest with
      | .word target _ :: rest => commandsFrom (command.redirect none op target) rest
      | _ => none
    else if op ∈ separators ∧ command ≠ {} then (commandsFrom {} rest).map (command :: ·)
    else none
  | _, .ioNumber _ :: _ => none

def parse (line : Bytes) : Option (List SimpleCommand) := (lex line).bind (commandsFrom {})

theorem lexFrom_cons {mode next : Mode} {c : UInt8} {tokens : List Token} (stepped : step mode c = some (tokens, next))
    (rest : Bytes) : lexFrom mode (c :: rest) = (lexFrom next rest).map (tokens ++ ·) := by
  rw [lexFrom, stepped]

/-- A step that ends no token. -/
theorem lexFrom_inside {mode next : Mode} {c : UInt8} (stepped : step mode c = some ([], next)) (rest : Bytes) :
    lexFrom mode (c :: rest) = lexFrom next rest := by
  rw [lexFrom_cons stepped]
  cases lexFrom next rest <;> rfl

/-- The tokens of the front of a line, and where the lexer is behind it. -/
def lexFront : Mode → Bytes → Option (List Token × Mode)
  | mode, [] => some ([], mode)
  | mode, c :: rest =>
    match step mode c with
    | none => none
    | some (tokens, next) => (lexFront next rest).map fun (more, last) => (tokens ++ more, last)

theorem lexFrom_append {mode last : Mode} {front : Bytes} {tokens : List Token}
    (lexed : lexFront mode front = some (tokens, last)) (rest : Bytes) :
    lexFrom mode (front ++ rest) = (lexFrom last rest).map (tokens ++ ·) := by
  induction front generalizing mode tokens with
  | nil =>
    cases lexed
    simp
  | cons c front ih =>
    rw [lexFront] at lexed
    cases stepped : step mode c with
    | none => simp [stepped] at lexed
    | some pair =>
      obtain ⟨first, next⟩ := pair
      simp only [stepped, Option.map_eq_some_iff] at lexed
      obtain ⟨⟨more, reached⟩, inside, same⟩ := lexed
      obtain ⟨rfl, rfl⟩ := Prod.mk.inj same
      rw [List.cons_append, lexFrom_cons stepped, ih inside, Option.map_map]
      congr 1
      funext tokens
      simp

theorem lexFrom_quoted_cons (text : Bytes) {c : UInt8} (plain : c ≠ quote) (rest : Bytes) :
    lexFrom (.quoted text) (c :: rest) = lexFrom (.quoted (text ++ [c])) rest :=
  lexFrom_inside (by simp [step, plain]) rest

theorem lexFrom_quoted_end (text rest : Bytes) : lexFrom (.quoted text) (quote :: rest) = lexFrom (.word text true) rest :=
  lexFrom_inside (by simp [step]) rest

theorem lexFrom_word_quote (text : Bytes) (isQuoted : Bool) (rest : Bytes) :
    lexFrom (.word text isQuoted) (quote :: rest) = lexFrom (.quoted text) rest :=
  lexFrom_inside (by simp [step, isBlank, quote]) rest

theorem lexFrom_word_backslash (text : Bytes) (isQuoted : Bool) {c : UInt8} (plain : c ≠ newline) (rest : Bytes) :
    lexFrom (.word text isQuoted) (backslash :: c :: rest) = lexFrom (.word (text ++ [c]) true) rest := by
  rw [lexFrom_inside (by simp [step, isBlank, backslash, quote]; rfl)]
  exact lexFrom_inside (by simp [step, plain]) rest

theorem lexFrom_between_quote (rest : Bytes) : lexFrom .between (quote :: rest) = lexFrom (.quoted []) rest :=
  lexFrom_inside (by simp [step, start, isBlank, quote]) rest

end Shell
