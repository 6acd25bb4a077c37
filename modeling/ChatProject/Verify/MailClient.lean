import ChatProject.Library.Text

namespace ChatModel

/-- A mail that waits to be sent; the strings are the bytes that they hold. The recipient is the field `to`. -/
structure Task where
  recipient : Bytes
  subject : Bytes
  body : Bytes
deriving DecidableEq, Repr

namespace MailClient

def shellQuote (s : Bytes) : Bytes :=
  bytesOf "'" ++ (s.flatMap fun c => if c = 39 then bytesOf "'\\''" else [c]) ++ bytesOf "'"

/-- `cmd` in `deliver`. -/
def command (task : Task) : Bytes :=
  bytesOf "/usr/bin/mail -s " ++ shellQuote task.subject ++ bytesOf " " ++ shellQuote task.recipient ++ bytesOf " 2>/dev/null"

/-- What `popen` gets, a C string. -/
def commandLine (task : Task) : Bytes := cString (command task)

end MailClient

end ChatModel
