import MetadataAudit.Table.Layout

/-! # Drawing tables

Lines are drawn around the table, under the headings and between the columns, but not between the
rows.
-/
namespace MetadataAudit
namespace Table

/-- A text repeated. -/
def repeated (s : String) (n : Nat) : String :=
  String.join (List.replicate n s)

/-- The lines of a cell in a column of the given width, filled up with blanks. -/
def cellLines (width : Nat) (cell : Cell) : List String :=
  (cell.drawnLines.flatMap (Wrap.lines width)).map fun line =>
    let blanks := repeated " " (width - Styled.width line.toList)
    match cell.alignment with
    | .left => " " ++ line ++ blanks ++ " "
    | .right => " " ++ blanks ++ line ++ " "

/-- The lines of a row, as many as its tallest cell has. -/
def rowLines (widths : List Nat) (row : List Cell) : List String :=
  let cells := widths.zipIdx.map fun (width, i) =>
    (width, (row[i]?.map (cellLines width)).getD [])
  let height := cells.foldl (fun n c => max n c.2.length) 0
  (List.range height).map fun i =>
    "│" ++ "┆".intercalate (cells.map fun (width, lines) =>
      lines[i]?.getD (repeated " " (width + padding))) ++ "│"

/-- A drawn line across the table. -/
def rule (widths : List Nat) (first dash joint last : String) : String :=
  first ++ joint.intercalate (widths.map fun w => repeated dash (w + padding)) ++ last

/-- The lines of the drawn table. -/
def draw (t : Table) : List String :=
  let widths := t.widths
  rule widths "╭" "─" "┬" "╮" :: rowLines widths t.head ++ rule widths "╞" "═" "╪" "╡" ::
    t.rows.flatMap (rowLines widths) ++ [rule widths "╰" "─" "┴" "╯"]

end Table
end MetadataAudit
