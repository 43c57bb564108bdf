/-! # Locations

A cell is addressed by the index of its row and of its column, both counted from zero.  Row 0 is
the header row.  Locations are ordered row by row.
-/
namespace MetadataAudit

/-- The address of a cell. -/
structure Location where
  row : Nat
  col : Nat
deriving DecidableEq

namespace Location

/-- The first cell of the header row. -/
def origin : Location := ⟨0, 0⟩

/-- Whether a location is in the header row. -/
def isHeader (l : Location) : Bool := l.row == 0

/-- The same row, another column. -/
def withCol (l : Location) (col : Nat) : Location := { l with col }

/-- The address as people read it. -/
def text (l : Location) : String :=
  s!"(Row: {l.row}, Col: {l.col})"

/-- `l` comes before `m`, or is `m`, in row-major order. -/
def le (l m : Location) : Bool :=
  l.row < m.row || (l.row == m.row && l.col ≤ m.col)

/-- Locations in row-major order. -/
def sort (ls : List Location) : List Location :=
  ls.mergeSort le

@[simp] theorem row_withCol (l : Location) (col : Nat) : (l.withCol col).row = l.row := rfl

@[simp] theorem col_withCol (l : Location) (col : Nat) : (l.withCol col).col = col := rfl

@[simp] theorem isHeader_eq_true {l : Location} : l.isHeader = true ↔ l.row = 0 := by
  simp [isHeader]

end Location
end MetadataAudit
