import MetadataAudit.Text.Hex

/-! # Writing JSON

The values that are written, and their two layouts: compact, and indented by two blanks a level.
A text is escaped as little as the format allows.
-/
namespace MetadataAudit

/-- A value to be written as JSON. -/
inductive Json where
  | natural (n : Nat)
  | text (s : String)
  | list (items : List Json)
  | record (fields : List (String × Json))

namespace Json

/-- A character inside a quoted text: quotes, backslashes and controls are escaped. -/
def escapeChar (c : Char) : List Char :=
  match c with
  | '\"' => ['\\', '\"']
  | '\\' => ['\\', '\\']
  | '\n' => ['\\', 'n']
  | '\r' => ['\\', 'r']
  | '\t' => ['\\', 't']
  | '\x08' => ['\\', 'b']
  | '\x0c' => ['\\', 'f']
  | c =>
    if c.toNat < 32 then ['\\', 'u', '0', '0', Hex.digit (c.toNat / 16), Hex.digit (c.toNat % 16)]
    else [c]

/-- A text in quotes. -/
def quote (s : String) : List Char :=
  '\"' :: s.toList.flatMap escapeChar ++ ['\"']

/-- A line break and the indentation of a level. -/
def newline (depth : Nat) : List Char :=
  '\n' :: List.replicate (2 * depth) ' '

mutual

/-- The value without blanks. -/
def compact : Json → List Char
  | .natural n => (Nat.repr n).toList
  | .text s => quote s
  | .list [] => ['[', ']']
  | .list (v :: vs) => '[' :: compact v ++ compactItems vs ++ [']']
  | .record [] => ['\x7b', '\x7d']
  | .record ((k, v) :: fs) =>
    '\x7b' :: quote k ++ ':' :: compact v ++ compactFields fs ++ ['\x7d']

/-- The items after the first one. -/
def compactItems : List Json → List Char
  | [] => []
  | v :: vs => ',' :: compact v ++ compactItems vs

/-- The fields after the first one. -/
def compactFields : List (String × Json) → List Char
  | [] => []
  | (k, v) :: fs => ',' :: quote k ++ ':' :: compact v ++ compactFields fs

end

mutual

/-- The value with one item or field a line, `depth` levels deep; an empty list or record stays on
its line. -/
def indented (depth : Nat) : Json → List Char
  | .natural n => (Nat.repr n).toList
  | .text s => quote s
  | .list [] => ['[', ']']
  | .list (v :: vs) =>
    '[' :: newline (depth + 1) ++ indented (depth + 1) v ++ indentedItems (depth + 1) vs ++
      newline depth ++ [']']
  | .record [] => ['\x7b', '\x7d']
  | .record ((k, v) :: fs) =>
    '\x7b' :: newline (depth + 1) ++ quote k ++ [':', ' '] ++ indented (depth + 1) v ++
      indentedFields (depth + 1) fs ++ newline depth ++ ['\x7d']

/-- The items after the first one, each on its line. -/
def indentedItems (depth : Nat) : List Json → List Char
  | [] => []
  | v :: vs => ',' :: newline depth ++ indented depth v ++ indentedItems depth vs

/-- The fields after the first one, each on its line. -/
def indentedFields (depth : Nat) : List (String × Json) → List Char
  | [] => []
  | (k, v) :: fs =>
    ',' :: newline depth ++ quote k ++ [':', ' '] ++ indented depth v ++ indentedFields depth fs

end

/-- The compact layout. -/
def toCompact (v : Json) : String := String.ofList v.compact

/-- The indented layout. -/
def toPretty (v : Json) : String := String.ofList (v.indented 0)

end Json
end MetadataAudit
