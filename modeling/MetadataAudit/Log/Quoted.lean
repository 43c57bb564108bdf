import MetadataAudit.Text.Hex
import MetadataAudit.Text.Unseen

/-! # Text in log lines

A value in quotes shows every character that cannot be seen, or that would change its neighbours,
by an escape.  A message is shown as it is but for the characters that steer a terminal.
-/
namespace MetadataAudit
namespace Log

/-- The number of a character in hexadecimal digits, between braces. -/
def byNumber (c : Char) : List Char :=
  ['\\', 'u', '\x7b'] ++ Nat.toDigits 16 c.toNat ++ ['\x7d']

/-- A character between quotes. -/
def quotedChar (c : Char) : List Char :=
  match c with
  | '\x00' => ['\\', '0']
  | '\t' => ['\\', 't']
  | '\r' => ['\\', 'r']
  | '\n' => ['\\', 'n']
  | '\\' => ['\\', '\\']
  | '\"' => ['\\', '\"']
  | c => if Text.isUnseen c then byNumber c else [c]

/-- A text in quotes. -/
def quoted (s : String) : String :=
  String.ofList ('\"' :: s.toList.flatMap quotedChar ++ ['\"'])

/-- A character of a message. -/
def messageChar (c : Char) : List Char :=
  if c = '\x1b' ∨ c = '\x07' ∨ c = '\x08' ∨ c = '\x0c' ∨ c = '\x7f' then
    ['\\', 'x', Hex.digit (c.toNat / 16), Hex.digit (c.toNat % 16)]
  else if 0x80 ≤ c.toNat ∧ c.toNat ≤ 0x9F then byNumber c
  else [c]

/-- A message without characters that steer a terminal. -/
def harmless (s : String) : String :=
  String.ofList (s.toList.flatMap messageChar)

/-- What stands in a log for the content of a cell. -/
def redaction : String := "[REDACTED]"

/-- The content of a cell in a log, which shows it only when it is told to. -/
def redact (shown : Bool) (value : String) : String :=
  if shown then value else redaction

end Log
end MetadataAudit
