import ChatProject.Library.Shell
import ChatProject.Verify.MailClient

/-! Whatever the subject and the recipient are, the shell sees one command with these two arguments. -/

namespace ChatProof

open ChatModel ChatModel.MailClient Shell

/-- A byte between the quotes, as `shell_quote` writes it. -/
def quotedByte (c : UInt8) : Bytes := if c = 39 then bytesOf "'\\''" else [c]

theorem quotedByte_apostrophe : quotedByte quote = [quote, backslash, quote, quote] := by decide

theorem shellQuote_eq (s rest : Bytes) : shellQuote s ++ rest = quote :: (s.flatMap quotedByte ++ quote :: rest) := by
  have apostrophe : bytesOf "'" = [quote] := by decide
  unfold shellQuote
  rw [apostrophe]
  simp only [List.cons_append, List.append_assoc]
  rfl

/-- Between the quotes each byte is read as itself. -/
theorem lexFrom_quotedByte (text : Bytes) (c : UInt8) (rest : Bytes) :
    lexFrom (.quoted text) (quotedByte c ++ rest) = lexFrom (.quoted (text ++ [c])) rest := by
  by_cases apostrophe : c = quote
  · subst apostrophe
    have plain : quote ≠ newline := by decide
    rw [quotedByte_apostrophe]
    simp only [List.cons_append, List.nil_append]
    rw [lexFrom_quoted_end, lexFrom_word_backslash _ _ plain, lexFrom_word_quote]
  · have same : quotedByte c = [c] := if_neg apostrophe
    rw [same, List.singleton_append, lexFrom_quoted_cons text apostrophe]

theorem lexFrom_quotedBytes (text s rest : Bytes) :
    lexFrom (.quoted text) (s.flatMap quotedByte ++ rest) = lexFrom (.quoted (text ++ s)) rest := by
  induction s generalizing text with
  | nil => simp
  | cons c s ih =>
    rw [List.flatMap_cons, List.append_assoc, lexFrom_quotedByte, ih, List.append_assoc, List.singleton_append]

theorem lexFrom_shellQuote (s rest : Bytes) :
    lexFrom .between (shellQuote s ++ rest) = lexFrom (.word s true) rest := by
  rw [shellQuote_eq, lexFrom_between_quote, lexFrom_quotedBytes, List.nil_append, lexFrom_quoted_end]

theorem lexFrom_blank (text : Bytes) (isQuoted : Bool) (rest : Bytes) :
    lexFrom (.word text isQuoted) (32 :: rest) = (lexFrom .between rest).map ([.word text isQuoted] ++ ·) := by
  have stepped : step (.word text isQuoted) 32 = some ([.word text isQuoted], .between) := by simp [step, isBlank]
  exact lexFrom_cons stepped rest

theorem lexFront_mail : lexFront .between (bytesOf "/usr/bin/mail -s ") =
    some ([.word (bytesOf "/usr/bin/mail") false, .word (bytesOf "-s") false], .between) := by
  decide +kernel

theorem lexFrom_redirection : lexFrom .between (bytesOf "2>/dev/null") =
    some [.ioNumber (bytesOf "2"), .operator (bytesOf ">"), .word (bytesOf "/dev/null") false] := by
  decide +kernel

theorem lex_command (task : Task) : lex (command task) =
    some [.word (bytesOf "/usr/bin/mail") false, .word (bytesOf "-s") false, .word task.subject true,
      .word task.recipient true, .ioNumber (bytesOf "2"), .operator (bytesOf ">"), .word (bytesOf "/dev/null") false] := by
  have blank : bytesOf " " = [32] := by decide
  have tail : bytesOf " 2>/dev/null" = 32 :: bytesOf "2>/dev/null" := by decide +kernel
  unfold lex command
  simp only [List.append_assoc]
  rw [lexFrom_append lexFront_mail, lexFrom_shellQuote, blank, List.singleton_append, lexFrom_blank, lexFrom_shellQuote,
    tail, lexFrom_blank, lexFrom_redirection]
  rfl

/-- Without NUL bytes, `popen` gets the whole command. -/
theorem commandLine_eq (task : Task) (subject : 0 ∉ task.subject) (recipient : 0 ∉ task.recipient) :
    commandLine task = command task := by
  have quotedBytes : ∀ s : Bytes, 0 ∉ s → ∀ b ∈ s.flatMap quotedByte, b ≠ 0 := by
    intro s absent b member
    obtain ⟨c, inside, written⟩ := List.mem_flatMap.mp member
    by_cases apostrophe : c = quote
    · rw [apostrophe, quotedByte_apostrophe] at written
      rintro rfl
      exact absurd written (by decide)
    · have same : quotedByte c = [c] := if_neg apostrophe
      rw [same, List.mem_singleton] at written
      rintro rfl
      exact absent (written ▸ inside)
  have quoted : ∀ s : Bytes, 0 ∉ s → ∀ b ∈ shellQuote s, b ≠ 0 := by
    intro s absent b member
    rw [← List.append_nil (shellQuote s), shellQuote_eq] at member
    simp only [List.mem_cons, List.mem_append, List.not_mem_nil, or_false] at member
    rcases member with rfl | inside | rfl
    · decide
    · exact quotedBytes s absent b inside
    · decide
  have whole : ∀ b ∈ command task, b ≠ 0 := by
    intro b member
    unfold command at member
    simp only [List.mem_append] at member
    rcases member with (((front | inside) | blank) | inside) | tail
    · exact bytesOf_ne_zero (by decide) b front
    · exact quoted task.subject subject b inside
    · exact bytesOf_ne_zero (by decide) b blank
    · exact quoted task.recipient recipient b inside
    · exact bytesOf_ne_zero (by decide) b tail
  have full := cString_pad whole 0
  rwa [List.replicate_zero, List.append_nil] at full

/-- The one command that `deliver` means to run. -/
def mailCommand (subject recipient : Bytes) : SimpleCommand :=
  { words := [bytesOf "/usr/bin/mail", bytesOf "-s", subject, recipient]
    redirections := [{ descriptor := some (bytesOf "2"), operator := bytesOf ">", target := bytesOf "/dev/null" }] }

theorem deliver_one_command (task : Task) (subject : 0 ∉ task.subject) (recipient : 0 ∉ task.recipient) :
    Shell.parse (commandLine task) = some [mailCommand task.subject task.recipient] := by
  have plain : bytesOf "/usr/bin/mail" ∉ reserved := by decide +kernel
  have redirector : bytesOf ">" ∈ redirectors := by decide
  rw [commandLine_eq task subject recipient, Shell.parse, lex_command, Option.bind_some]
  simp [commandsFrom, plain, redirector, SimpleCommand.addWord, SimpleCommand.redirect, mailCommand]

/-- A recipient who would like to run a command of his own. -/
theorem deliver_one_command_injection :
    Shell.parse (commandLine { recipient := bytesOf "'; reboot '", subject := bytesOf "verify code", body := [] }) =
      some [mailCommand (bytesOf "verify code") (bytesOf "'; reboot '")] :=
  deliver_one_command { recipient := bytesOf "'; reboot '", subject := bytesOf "verify code", body := [] }
    (by decide) (by decide)

end ChatProof
