import MetadataAudit.Text.Split
import MetadataAudit.Text.Styled

/-! # Wrapping

A line that is too long is filled up word by word.  A word begins a new line when the current one
has no room for it, and is itself divided only when it is longer than a whole line.  A line with
room for two columns or less is full.
-/
namespace MetadataAudit
namespace Wrap

/-- The room that is too little to go on. -/
def slack : Nat := 2

/-- The finished lines, last one first, and the line that is being filled. -/
structure Fill where
  done : List (List Char) := []
  line : List Char := []

namespace Fill

/-- Ends the line. -/
def flush (f : Fill) : Fill := ⟨f.line :: f.done, []⟩

/-- Puts text at the end of the line, with a blank before it unless the line is empty. -/
def add (f : Fill) (text : List Char) : Fill :=
  { f with line := if f.line.isEmpty then text else f.line ++ ' ' :: text }

/-- Ends the line if it is full. -/
def settle (room : Nat) (f : Fill) : Fill :=
  if room - slack < Styled.width f.line then f.flush else f

/-- All lines. -/
def finish (f : Fill) : List (List Char) :=
  (if f.line.isEmpty then f.done else f.line :: f.done).reverse

end Fill

/-- The part of a long word that fits into `left` columns, and the rest.  At the start of a line a
character is taken even when it does not fit. -/
def divide (left : Nat) (atStart : Bool) (word : List Char) : List Char × List Char :=
  match Styled.splitAtWidth left [] [] [] (Styled.pieces word) with
  | ([], c :: rest) => if atStart then ([c], rest) else ([], c :: rest)
  | parts => parts

/-- Fills lines of `room` columns with words; `fuel` bounds the number of steps. -/
def fill (room : Nat) : Nat → Fill → List (List Char) → List (List Char)
  | 0, f, _ => f.finish
  | _, f, [] => f.finish
  | fuel + 1, f, word :: words =>
    let atStart := f.line.isEmpty
    let used := Styled.width f.line + if atStart then 0 else 1
    let left := room - used
    if used + Styled.width word ≤ room then
      fill room fuel ((f.add word).settle room) words
    else if !atStart && left ≤ slack then
      fill room fuel f.flush (word :: words)
    else if room < Styled.width word then
      let (now, later) := divide left atStart word
      fill room fuel ((f.add now).settle room) (later :: words)
    else fill room fuel (({ f.flush with line := word }).settle room) words

/-- The lines that a line of text takes in a column of `room`.  A step uses up a word, a character
of one, or a column of the line. -/
def lines (room : Nat) (s : String) : List String :=
  if room < Styled.width s.toList then
    let words := Styled.selfContained [] (Text.splitChars ' ' s.toList)
    (fill room ((room + 3) * (words.flatten.length + words.length + 1)) {} words).map String.ofList
  else [s]

/-- The columns of the widest of some lines. -/
def widest (ls : List String) : Nat :=
  ls.foldl (fun n l => max n (Styled.width l.toList)) 0

/-- The bytes of the longest of some lines. -/
def longest (ls : List String) : Nat :=
  ls.foldl (fun n l => max n l.utf8ByteSize) 0

end Wrap
end MetadataAudit
