import MetadataAudit.Text.Blank
import MetadataAudit.Text.Decimal
import MetadataAudit.Timestamp.Basic

/-! # Reading timestamps

Timestamps are read leniently: numbers may have fewer digits than usual, blanks may stand before
every number and around the zone, `T` may be a blank, and the zone may be a letter, a name or an
offset with or without a colon.
-/
namespace MetadataAudit
namespace Timestamp

open Text (dropBlanks)

/-- One to `width` digits, as a number, and what follows them. -/
def number? (width : Nat) (cs : List Char) : Option (Nat × List Char) :=
  let digits := (cs.take width).takeWhile Char.isDigit
  if digits.isEmpty then none else some (Decimal.value digits, cs.drop digits.length)

/-- A number of at most two digits after blanks. -/
def pair? (cs : List Char) : Option (Nat × List Char) :=
  number? 2 (dropBlanks cs)

/-- A year after blanks: up to four digits, or a sign and any number of digits. -/
def year? (cs : List Char) : Option (Int × List Char) :=
  match dropBlanks cs with
  | '-' :: cs => (number? cs.length cs).map fun (n, rest) => (-(n : Int), rest)
  | '+' :: cs => (number? cs.length cs).map fun (n, rest) => ((n : Int), rest)
  | cs => (number? 4 cs).map fun (n, rest) => ((n : Int), rest)

/-- A mark after blanks. -/
def mark? (mark : Char) (cs : List Char) : Option (List Char) :=
  match dropBlanks cs with
  | c :: rest => if c = mark then some rest else none
  | [] => none

/-- The letter or blank between date and time. -/
def divider? : List Char → Option (List Char)
  | c :: rest => if c = 'T' ∨ c = 't' ∨ c = ' ' then some rest else none
  | [] => none

/-- A fraction of a second in nanoseconds; digits after the ninth are dropped. -/
def fraction? : List Char → Option (Nat × List Char)
  | '.' :: cs =>
    let digits := (cs.take 9).takeWhile Char.isDigit
    if digits.isEmpty then none
    else
      some (Decimal.value (digits ++ List.replicate (9 - digits.length) '0'),
        (cs.drop digits.length).dropWhile Char.isDigit)
  | cs => some (0, cs)

/-- Hours and minutes of an offset, in minutes; colons and blanks may stand between them. -/
def offsetMinutes? : List Char → Option (Nat × List Char)
  | h₁ :: h₂ :: cs =>
    if h₁.isDigit && h₂.isDigit then
      match cs.dropWhile fun c => c = ':' || Text.isBlankChar c with
      | m₁ :: m₂ :: rest =>
        if m₁.isDigit && m₂.isDigit && m₁.toNat < 54 then
          some (Decimal.value [h₁, h₂] * 60 + Decimal.value [m₁, m₂], rest)
        else none
      | _ => none
    else none
  | _ => none

/-- The zone as minutes ahead of universal time. -/
def zone? (cs : List Char) : Option (Int × List Char) :=
  match cs with
  | u :: t :: c :: rest =>
    if u.toUpper = 'U' ∧ t.toUpper = 'T' ∧ c.toUpper = 'C' then some (0, rest) else offset? cs
  | cs => offset? cs
where
  /-- `Z`, or a sign and an offset. -/
  offset? : List Char → Option (Int × List Char)
    | c :: rest =>
      if c = 'Z' ∨ c = 'z' then some (0, rest)
      else if c = '+' then (offsetMinutes? rest).map fun (n, rest) => ((n : Int), rest)
      else if c = '-' ∨ c = '\u2212' then
        (offsetMinutes? rest).map fun (n, rest) => (-(n : Int), rest)
      else none
    | [] => none

/-- Reads a timestamp; `none` when it names no second of the calendar. -/
def ofChars? (cs : List Char) : Option Timestamp := do
  let (year, cs) ← year? cs
  let (month, cs) ← mark? '-' cs >>= pair?
  let (day, cs) ← mark? '-' cs >>= pair?
  let (hour, cs) ← divider? cs >>= pair?
  let (minute, cs) ← mark? ':' cs >>= pair?
  let (second, cs) ← mark? ':' cs >>= pair?
  let (nano, cs) ← fraction? cs
  let (offset, cs) ← zone? (dropBlanks cs)
  if offset.natAbs < 1440 ∧ (dropBlanks cs).isEmpty then
    -- the local time must itself be one of the calendar
    let _ ← of? ⟨year, month, day⟩ hour minute second nano
    ofLocal? ⟨year, month, day⟩ hour minute second nano offset
  else none

/-- Reads a timestamp from a text. -/
def ofText? (s : String) : Option Timestamp := ofChars? s.toList

end Timestamp
end MetadataAudit
