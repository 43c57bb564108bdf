import MetadataAudit.Violation

/-! # Grids

A grid is a list of rows of text cells; rows may differ in length.  Row 0 holds the field names.
Every accessor checks its location first, against the row it addresses, and fails with a violation
that carries the location and profile it was given.
-/
namespace MetadataAudit

/-- Rows of cells; row 0 is the header row. -/
structure Grid where
  rows : List (List String)
deriving DecidableEq

namespace Grid

/-- The header row, empty for a grid without rows. -/
def headers (g : Grid) : List String := g.rows.headD []

/-- The cell at a location, if there is one. -/
def get? (g : Grid) (l : Location) : Option String :=
  g.rows[l.row]? >>= fun row => row[l.col]?

/-- The locations of the cells of one row. -/
def rowLocations (row : Nat) (cells : List String) : List Location :=
  (List.range cells.length).map fun col => ⟨row, col⟩

/-- Every cell's location, row by row. -/
def locations (g : Grid) : List Location :=
  g.rows.zipIdx.flatMap fun (cells, row) => rowLocations row cells

variable (g : Grid) (l : Location) (profile : String)

/-- Confirms that a location addresses a cell. -/
def check : Except Violation Unit :=
  match g.rows[l.row]? with
  | none => .error (.of s!"row {l.row} is out of bounds" l profile)
  | some row =>
    if l.col < row.length then .ok ()
    else .error (.of s!"column {l.col} is out of bounds" l profile)

/-- The text of the cell at a location. -/
def cell : Except Violation String := do
  g.check l profile
  return (g.get? l).getD ""

/-- The field name above a location. -/
def header : Except Violation String := do
  g.check l profile
  if g.headers.isEmpty then
    throw (.of "the first row of the grid is empty" l profile)
  match g.headers[l.col]? with
  | some name => return name
  | none => throw (.of s!"column {l.col} has no header" l profile)

/-- The first column whose field name is `name`. -/
def headerIndex (name : String) : Except Violation Nat := do
  g.check l profile
  match g.headers.idxOf? name with
  | some col => return col
  | none => throw (.of s!"supplied header '{name}' was not located in first row" l profile)

/-- The text in the addressed row under the field `name`. -/
def rowValue (name : String) : Except Violation String :=
  match g.headerIndex l profile name with
  | .ok col => g.cell (l.withCol col) profile
  | .error v =>
    .error ((Violation.of s!"conditional field '{name}' was not found" l profile).causedBy v)

end Grid
end MetadataAudit
