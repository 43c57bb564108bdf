import MetadataAudit.Table.Basic
import MetadataAudit.Table.Wrap

/-! # Layout of tables

The room of a table is shared out among its columns.  Columns that need no more than their share
get what they need, which leaves more for the others; then those that were promised more than their
share get that, and those whose text leaves room when it is wrapped give it up.  What remains is
divided evenly.
-/
namespace MetadataAudit

/-- A column while the room is shared out. -/
structure Column where
  limit : Limit
  lines : List String
  /-- The room for text, once it is settled. -/
  width : Option Nat := none

/-- The columns, and the room that is left for those that are not settled. -/
structure Shares where
  columns : List Column
  room : Nat

namespace Table

/-- The columns of the terminal that a table may take. -/
def totalWidth : Nat := 120

/-- The blanks at the sides of a cell. -/
def padding : Nat := 2

/-- The room between the lines that divide the columns. -/
def roomOf (columns : Nat) : Nat := totalWidth - (columns + 1)

end Table

namespace Column

/-- The columns of the widest line. -/
def content (c : Column) : Nat := Wrap.widest c.lines

/-- The column with its width settled; a column is never narrower than one character. -/
def settle (c : Column) (width : Nat) : Column := { c with width := some (max 1 width) }

/-- The room for text in a width that counts the blanks at the sides. -/
def inner (width : Nat) : Nat := max 1 (width - Table.padding)

/-- The width that a column takes which needs no more than the share of each, in a table with room
`room`. -/
def modest? (room share : Nat) (c : Column) : Option Nat :=
  let content := c.content
  let capped :=
    match c.limit with
    | .atMost percent =>
      let most := room * percent / 100
      if most ≤ share + Table.padding ∧ most ≤ content + Table.padding then some (inner most)
      else none
    | _ => none
  match capped with
  | some width => some width
  | none => if content ≤ share then some content else none

/-- The width of a column that was promised more than the share of each. -/
def promised? (share : Nat) (c : Column) : Option Nat :=
  match c.limit with
  | .atLeast width => if share < width then some (inner width) else none
  | _ => none

/-- The width of a column that leaves room when its text is wrapped to the share of each.  The
wrapped lines are measured in bytes, which are never fewer than the columns of a letter. -/
def wrapped? (share : Nat) (c : Column) : Option Nat :=
  let longest := Wrap.longest (c.lines.flatMap (Wrap.lines (max 1 share)))
  if longest + 3 ≤ share then some longest else none

end Column

namespace Shares

/-- How many columns are not settled. -/
def undecided (s : Shares) : Nat := s.columns.countP fun c => c.width.isNone

/-- The share of each column that is not settled. -/
def share (s : Shares) : Nat := s.room / s.undecided

/-- Settles the columns for which `rule` gives a width at the present share, one after another. -/
def sweep (rule : Nat → Column → Option Nat) (s : Shares) : Shares :=
  (List.range s.columns.length).foldl (fun s i =>
    match s.columns[i]? with
    | none => s
    | some c =>
      if c.width.isSome then s
      else
        match rule s.share c with
        | none => s
        | some width => ⟨s.columns.set i (c.settle width), s.room - width⟩) s

/-- Sweeps until no further column is settled; each time but the last settles one. -/
def settleAll (rule : Nat → Column → Option Nat) : Nat → Shares → Shares
  | 0, s => s
  | fuel + 1, s =>
    let next := s.sweep rule
    if next.undecided = s.undecided then next else next.settleAll rule fuel

/-- Divides the remaining room evenly; the first columns get what does not divide. -/
def distribute (s : Shares) : List Nat :=
  let count := s.undecided
  let room := max s.room count
  let share := room / count
  (s.columns.foldl (fun (widths, excess) c =>
    match c.width with
    | some width => (width :: widths, excess)
    | none => (max 1 (share + min excess 1) :: widths, excess - 1))
    (([] : List Nat), room - share * count)).1.reverse

end Shares

namespace Table

/-- The columns of a table, those settled for which what they are promised is enough. -/
def columns (t : Table) : List Column :=
  t.headings.zipIdx.map fun (h, i) =>
    let c : Column := { limit := h.limit, lines := t.columnLines i }
    match h.limit with
    | .atLeast width => if c.content + padding ≤ width then c.settle (Column.inner width) else c
    | _ => c

/-- The room for text in each column. -/
def widths (t : Table) : List Nat :=
  let columns := t.columns
  let room := roomOf t.columnCount
  let taken := columns.foldl (fun n c => n + padding + c.width.getD 0) 0
  let start : Shares := ⟨columns, room - taken⟩
  let fuel := t.columnCount + 1
  (((start.settleAll (Column.modest? room) fuel).sweep Column.promised?).settleAll
    Column.wrapped? fuel).distribute

end Table
end MetadataAudit
