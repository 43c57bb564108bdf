import MetadataAudit.Text.Split
import MetadataAudit.Text.Styled

/-! # Tables

A table has a row of headings and rows of cells.  Each column may be limited: it may be promised
some room, or be kept to a part of the table's.
-/
namespace MetadataAudit

/-- Where the text of a cell stands. -/
inductive Alignment where
  | left
  | right
deriving DecidableEq

/-- The text of a cell, line by line. -/
structure Cell where
  lines : List String
  alignment : Alignment := .left
deriving DecidableEq

namespace Cell

/-- A cell that begins at the left. -/
def ofText (s : String) : Cell := ⟨Text.lines s, .left⟩

/-- A number, which ends at the right. -/
def ofNat (n : Nat) : Cell := ⟨[Nat.repr n], .right⟩

/-- The lines as they are drawn: none of them styles what stands beside it. -/
def drawnLines (c : Cell) : List String :=
  (Styled.selfContained [] (c.lines.map String.toList)).map String.ofList

end Cell

/-- What is asked of the width of a column; blanks at its sides count. -/
inductive Limit where
  | free
  | atLeast (width : Nat)
  /-- At most this many hundredths of the room for all columns. -/
  | atMost (percent : Nat)
deriving DecidableEq

/-- A heading with the limit of the column below it. -/
structure Heading where
  text : String
  limit : Limit := .free
deriving DecidableEq

/-- Headings, and rows with a cell for each of them. -/
structure Table where
  headings : List Heading
  rows : List (List Cell)
deriving DecidableEq

namespace Table

/-- The cells of the row of headings. -/
def head (t : Table) : List Cell := t.headings.map fun h => .ofText h.text

/-- How many columns there are. -/
def columnCount (t : Table) : Nat := t.headings.length

/-- All lines that are drawn in a column, the heading first. -/
def columnLines (t : Table) (column : Nat) : List String :=
  (t.head :: t.rows).flatMap fun row => (row[column]?.map Cell.drawnLines).getD []

end Table
end MetadataAudit
