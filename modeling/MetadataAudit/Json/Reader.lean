import MetadataAudit.Text.Hex
import MetadataAudit.Text.Utf8

/-! # Reading JSON

A document is read by a machine that takes one symbol at a time and keeps the lists and records it
is inside of on a stack, so nesting has no limit.  It checks syntax only: a number that is no plain
natural number and a text that is no Unicode text are read as such, and it is for the decoder to
refuse them where a value is wanted and to pass over them where it is not.
-/
namespace MetadataAudit

/-- A JSON value as it was read. -/
inductive Parsed where
  | null
  | bool (b : Bool)
  /-- Digits without sign, fraction or exponent. -/
  | natural (n : Nat)
  /-- Any other number. -/
  | otherNumber
  | text (s : String)
  /-- A text with half of a surrogate pair, or with bytes that belong to no character. -/
  | illFormed
  | list (items : List Parsed)
  /-- Fields in the order they were written, repeated ones included; `none` is a name that is no
  Unicode text. -/
  | record (fields : List (Option String × Parsed))

namespace Parsed

/-- How far the text of a number has been read. -/
inductive NumberPart where
  | minus | zero | whole | point | fraction | mark | sign | exponent
deriving DecidableEq

/-- The part of a number that a further symbol leads to. -/
def NumberPart.next? : NumberPart → Char → Option NumberPart
  | .minus, c => if c = '0' then some .zero else if c.isDigit then some .whole else none
  | .zero, c => if c = '.' then some .point else if c = 'e' ∨ c = 'E' then some .mark else none
  | .whole, c =>
    if c.isDigit then some .whole
    else if c = '.' then some .point
    else if c = 'e' ∨ c = 'E' then some .mark
    else none
  | .point, c => if c.isDigit then some .fraction else none
  | .fraction, c =>
    if c.isDigit then some .fraction else if c = 'e' ∨ c = 'E' then some .mark else none
  | .mark, c =>
    if c.isDigit then some .exponent else if c = '+' ∨ c = '-' then some .sign else none
  | .sign, c => if c.isDigit then some .exponent else none
  | .exponent, c => if c.isDigit then some .exponent else none

/-- Whether a number may end here. -/
def NumberPart.isComplete : NumberPart → Bool
  | .zero | .whole | .fraction | .exponent => true
  | _ => false

/-- A number under way: its sign, the value of its digits, and how far it has been read. -/
structure Numeral where
  negative : Bool
  value : Nat
  part : NumberPart

/-- The value of a number that has ended. -/
def Numeral.finish? (n : Numeral) : Option Parsed :=
  if n.part.isComplete then
    if n.negative = false ∧ (n.part = .zero ∨ n.part = .whole) then some (.natural n.value)
    else some .otherNumber
  else none

/-- A text under way: its characters so far, last one first, and the first half of a surrogate
pair that waits for its second. -/
structure Scrap where
  chars : Option (List Char) := some []
  high : Option Nat := none

namespace Scrap

/-- The text with one more character; a waiting half of a pair stays without its other half. -/
def push (s : Scrap) (c : Char) : Scrap :=
  if s.high.isSome then ⟨none, none⟩ else ⟨s.chars.map (c :: ·), none⟩

/-- The text with a unit of UTF-16 that was given by number. -/
def pushUnit (s : Scrap) (unit : Nat) : Scrap :=
  match s.high with
  | some high =>
    if 0xDC00 ≤ unit ∧ unit ≤ 0xDFFF then
      ⟨s.chars.map (Char.ofNat ((high - 0xD800) * 1024 + (unit - 0xDC00) + 0x10000) :: ·), none⟩
    else ⟨none, none⟩
  | none =>
    if 0xD800 ≤ unit ∧ unit ≤ 0xDBFF then ⟨s.chars, some unit⟩
    else if 0xDC00 ≤ unit ∧ unit ≤ 0xDFFF then ⟨none, none⟩
    else s.push (Char.ofNat unit)

/-- The finished text; `none` when it is no Unicode text. -/
def finish (s : Scrap) : Option String :=
  if s.high.isSome then none else s.chars.map fun cs => String.ofList cs.reverse

end Scrap

/-- A list or record that is still open; what it holds so far stands last one first. -/
inductive Frame where
  | list (items : List Parsed)
  /-- A record, with the name whose value is being read. -/
  | record (fields : List (Option String × Parsed)) (name : Option String)

/-- What the machine waits for. -/
inductive Mode where
  /-- A value. -/
  | value
  /-- A value, or the end of the list that has just been opened. -/
  | firstItem
  /-- A name. -/
  | name (fields : List (Option String × Parsed))
  /-- A name, or the end of the record that has just been opened. -/
  | firstName
  /-- The colon after a name. -/
  | colon
  /-- What follows a value. -/
  | after (v : Parsed)
  /-- The rest of `true`, `false` or `null`. -/
  | word (rest : List Char) (v : Parsed)
  | number (n : Numeral)
  /-- The rest of a text, which is a name when `fields` is given. -/
  | text (fields : Option (List (Option String × Parsed))) (s : Scrap)
  /-- The symbol after a backslash. -/
  | escape (fields : Option (List (Option String × Parsed))) (s : Scrap)
  /-- The remaining `left` hexadecimal digits of a unit. -/
  | unit (fields : Option (List (Option String × Parsed))) (s : Scrap) (left value : Nat)

/-- The machine: the open lists and records, innermost first, and what it waits for. -/
structure Machine where
  stack : List Frame := []
  mode : Mode := .value

/-- The symbols between tokens. -/
def isGap (c : Char) : Bool := c = ' ' || c = '\n' || c = '\t' || c = '\r'

/-- The character that a one-letter escape stands for. -/
def escaped? (c : Char) : Option Char :=
  match c with
  | '\"' => some '\"'
  | '\\' => some '\\'
  | '/' => some '/'
  | 'b' => some '\x08'
  | 'f' => some '\x0c'
  | 'n' => some '\n'
  | 'r' => some '\r'
  | 't' => some '\t'
  | _ => none

namespace Machine

/-- The first symbol of a value. -/
def begin? (stack : List Frame) (c : Char) : Option Machine :=
  match c with
  | '\"' => some ⟨stack, .text none {}⟩
  | '[' => some ⟨.list [] :: stack, .firstItem⟩
  | '\x7b' => some ⟨stack, .firstName⟩
  | 't' => some ⟨stack, .word ['r', 'u', 'e'] (.bool true)⟩
  | 'f' => some ⟨stack, .word ['a', 'l', 's', 'e'] (.bool false)⟩
  | 'n' => some ⟨stack, .word ['u', 'l', 'l'] .null⟩
  | '-' => some ⟨stack, .number ⟨true, 0, .minus⟩⟩
  | '0' => some ⟨stack, .number ⟨false, 0, .zero⟩⟩
  | c => if c.isDigit then some ⟨stack, .number ⟨false, c.toNat - 48, .whole⟩⟩ else none

/-- A symbol after the value `v`. -/
def follow? (stack : List Frame) (v : Parsed) (c : Char) : Option Machine :=
  if isGap c then some ⟨stack, .after v⟩ else
  match stack with
  | .list items :: stack =>
    if c = ',' then some ⟨.list (v :: items) :: stack, .value⟩
    else if c = ']' then some ⟨stack, .after (.list (v :: items).reverse)⟩
    else none
  | .record fields name :: stack =>
    if c = ',' then some ⟨stack, .name ((name, v) :: fields)⟩
    else if c = '\x7d' then some ⟨stack, .after (.record ((name, v) :: fields).reverse)⟩
    else none
  | [] => none

/-- What a finished text leads to: a colon after a name, and what follows after a value. -/
def finishText (stack : List Frame) (fields : Option (List (Option String × Parsed)))
    (s : Scrap) : Machine :=
  match fields with
  | some fields => ⟨.record fields s.finish :: stack, .colon⟩
  | none => ⟨stack, .after (match s.finish with | some t => .text t | none => .illFormed)⟩

/-- One symbol; `none` when the document is no JSON. -/
def step? (m : Machine) (symbol : Symbol) : Option Machine :=
  match m.mode, symbol with
  | .text fields s, none => some ⟨m.stack, .text fields { s with chars := none }⟩
  | _, none => none
  | .value, some c => if isGap c then some m else begin? m.stack c
  | .firstItem, some c =>
    if isGap c then some m
    else if c = ']' then
      match m.stack with
      | .list _ :: stack => some ⟨stack, .after (.list [])⟩
      | _ => none
    else begin? m.stack c
  | .name fields, some c =>
    if isGap c then some m
    else if c = '\"' then some ⟨m.stack, .text (some fields) {}⟩
    else none
  | .firstName, some c =>
    if isGap c then some m
    else if c = '\x7d' then some ⟨m.stack, .after (.record [])⟩
    else if c = '\"' then some ⟨m.stack, .text (some []) {}⟩
    else none
  | .colon, some c =>
    if isGap c then some m else if c = ':' then some ⟨m.stack, .value⟩ else none
  | .after v, some c => follow? m.stack v c
  | .word [] v, some c => follow? m.stack v c
  | .word (w :: rest) v, some c => if c = w then some ⟨m.stack, .word rest v⟩ else none
  | .number n, some c =>
    match n.part.next? c with
    | some part =>
      some ⟨m.stack, .number ⟨n.negative, n.value * 10 + (c.toNat - 48), part⟩⟩
    | none => n.finish? >>= fun v => follow? m.stack v c
  | .text fields s, some c =>
    if c = '\"' then some (finishText m.stack fields s)
    else if c = '\\' then some ⟨m.stack, .escape fields s⟩
    else if c.toNat < 32 then none
    else some ⟨m.stack, .text fields (s.push c)⟩
  | .escape fields s, some c =>
    if c = 'u' then some ⟨m.stack, .unit fields s 4 0⟩
    else (escaped? c).map fun e => ⟨m.stack, .text fields (s.push e)⟩
  | .unit fields s left value, some c => do
    let digit ← Hex.value? c
    let value := value * 16 + digit
    if left ≤ 1 then return ⟨m.stack, .text fields (s.pushUnit value)⟩
    else return ⟨m.stack, .unit fields s (left - 1) value⟩

/-- The machine after a list of symbols. -/
def run? (m : Machine) : List Symbol → Option Machine
  | [] => some m
  | s :: ss => m.step? s >>= fun m => m.run? ss

/-- The document, if it is complete. -/
def finish? (m : Machine) : Option Parsed :=
  match m.stack, m.mode with
  | [], .after v => some v
  | [], .word [] v => some v
  | [], .number n => n.finish?
  | _, _ => none

end Machine

/-- Reads a whole document. -/
def ofSymbols? (symbols : List Symbol) : Option Parsed :=
  ({} : Machine).run? symbols >>= Machine.finish?

/-- Reads a text. -/
def ofText? (s : String) : Option Parsed :=
  ofSymbols? (s.toList.map some)

/-- Reads the content of a file. -/
def ofBytes? (bs : Bytes) : Option Parsed :=
  ofSymbols? (Utf8.decode bs)

end Parsed
end MetadataAudit
