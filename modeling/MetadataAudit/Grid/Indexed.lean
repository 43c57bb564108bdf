import MetadataAudit.Grid

/-! # Cells by their indices

A text is taken out of a row, and a row out of a grid, by its index, and a reading that goes beyond the
end does not fail but halts.  These are the accessors that read so, in that form: what they are refused
before they use an index decides whether they ever halt.
-/
namespace MetadataAudit

/-- A reading that may be refused; it halts, which is `none`, where there is nothing at an index. -/
abbrev Reading (α : Type) := ExceptT Violation Option α

namespace Reading

variable {α : Type}

/-- Goes on with an answer, unless that refuses. -/
def accept (x : Except Violation α) : Reading α := ExceptT.mk (some x)

/-- The element at an index. -/
def index (xs : List α) (i : Nat) : Reading α := ExceptT.mk (xs[i]?.map .ok)

end Reading

namespace Grid

variable (g : Grid) (l : Location) (profile : String)

/-- The text of the cell at a location, by the indices of its row and its column. -/
def readCell : Reading String := do
  Reading.accept (g.check l profile)
  let cells ← Reading.index g.rows l.row
  Reading.index cells l.col

/-- The text in the addressed row under the field `name`, by the index of the field. -/
def readRowValue (name : String) : Reading String := do
  let col ← Reading.accept <| (g.headerIndex l profile name).mapError fun v =>
    (Violation.of s!"conditional field '{name}' was not found" l profile).causedBy v
  g.readCell (l.withCol col) profile

end Grid
end MetadataAudit
