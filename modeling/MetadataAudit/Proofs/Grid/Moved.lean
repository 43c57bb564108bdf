import MetadataAudit.Check.Basic
import MetadataAudit.Proofs.Grid.Cells
import MetadataAudit.Proofs.Violation

/-! # Rows that stand elsewhere

A data row may stand further down in another grid with the same header row (`Grid.Moved`).  What is
read from it there is what is read from it here, and what is refused is refused in the same words: as
the row is there, these tell a column at most (`check_down`, `rowValue_down`).  Rows that are put above
others stay where they are, and the others move down by their number (`dataLocations_append`).
-/
namespace MetadataAudit

/-- The location `n` rows further down. -/
def Location.down (n : Nat) (l : Location) : Location := { l with row := l.row + n }

/-- The finding `n` rows further down. -/
def Finding.down (n : Nat) (f : Finding) : Finding := { f with location := f.location.down n }

/-- The chain of causes `n` rows further down. -/
def Cause.down (n : Nat) : Cause → Cause
  | .none => .none
  | .foreign text => .foreign text
  | .finding inner cause => .finding (inner.down n) (cause.down n)

/-- The violation `n` rows further down, with all that led to it. -/
def Violation.down (n : Nat) (v : Violation) : Violation := ⟨v.finding.down n, v.cause.down n⟩

@[simp] theorem Cause.down_zero (c : Cause) : c.down 0 = c := by
  induction c with
  | none => rfl
  | foreign text => rfl
  | finding inner cause ih => rw [down, ih]; rfl

@[simp] theorem Violation.down_zero (v : Violation) : v.down 0 = v := by
  rw [down, Cause.down_zero]
  rfl

theorem Violation.map_down_zero (vs : Violations) : vs.map (Violation.down 0) = vs := by
  rw [List.map_congr_left fun v _ => v.down_zero, List.map_id']

theorem Cause.relabelled_down (n : Nat) (c : Cause) : c.Relabelled (c.down n) := by
  induction c with
  | none => exact .none
  | foreign text => exact .foreign text
  | finding inner cause ih => exact .finding rfl ih

/-- What a person reads in a report does not tell the rows of causes. -/
theorem Violation.userMessage_down (n : Nat) (v : Violation) :
    (v.down n).userMessage = v.userMessage :=
  Relabelled.userMessage_eq ⟨rfl, v.cause.relabelled_down n⟩

namespace Grid

variable {g g' : Grid} {l : Location} {n : Nat}

/-- The row of a location stands `n` rows further down in another grid with the same header row.  The
header row itself stays where it is. -/
structure Moved (g g' : Grid) (l : Location) (n : Nat) : Prop where
  headers : g'.headers = g.headers
  row : ∃ cells, g.rows[l.row]? = some cells ∧ g'.rows[l.row + n]? = some cells
  header : l.row = 0 → n = 0

namespace Moved

theorem withCol (h : Moved g g' l n) (col : Nat) : Moved g g' (l.withCol col) n :=
  ⟨h.headers, h.row, h.header⟩

theorem isHeader_down (h : Moved g g' l n) : (l.down n).isHeader = l.isHeader := by
  by_cases hrow : l.row = 0
  · rw [h.header hrow]
    rfl
  · have hdown : ¬ l.row + n = 0 := fun hzero => hrow (Nat.eq_zero_of_add_eq_zero_right hzero)
    simp only [Location.isHeader, Location.down, beq_eq_false_iff_ne.mpr hrow,
      beq_eq_false_iff_ne.mpr hdown]

theorem down_eq_origin_iff (h : Moved g g' l n) : l.down n = .origin ↔ l = .origin := by
  constructor
  · intro hdown
    have hrow : l.row = 0 := Nat.eq_zero_of_add_eq_zero_right (congrArg Location.row hdown)
    rw [h.header hrow] at hdown
    exact hdown
  · intro horigin
    rw [h.header (congrArg Location.row horigin)]
    exact horigin

theorem get?_down (h : Moved g g' l n) : g'.get? (l.down n) = g.get? l := by
  obtain ⟨cells, hrow, hrow'⟩ := h.row
  have hdown : g'.rows[(l.down n).row]? = some cells := hrow'
  rw [get?, get?, hrow, hdown]
  rfl

variable (profile : String)

theorem check_down (h : Moved g g' l n) :
    g'.check (l.down n) profile = (g.check l profile).mapError (Violation.down n) := by
  obtain ⟨cells, hrow, hrow'⟩ := h.row
  have hdown : g'.rows[(l.down n).row]? = some cells := hrow'
  simp only [check, hrow, hdown]
  by_cases hcol : l.col < cells.length
  · have hcol' : (l.down n).col < cells.length := hcol
    simp only [hcol, hcol', if_true]
    rfl
  · have hcol' : ¬ (l.down n).col < cells.length := hcol
    simp only [hcol, hcol', if_false]
    rfl

theorem cell_down (h : Moved g g' l n) :
    g'.cell (l.down n) profile = (g.cell l profile).mapError (Violation.down n) := by
  rw [cell, cell, h.check_down, h.get?_down]
  cases g.check l profile with
  | error v => rfl
  | ok _ => rfl

theorem header_down (h : Moved g g' l n) :
    g'.header (l.down n) profile = (g.header l profile).mapError (Violation.down n) := by
  rw [Grid.header, Grid.header, h.check_down, h.headers]
  cases g.check l profile with
  | error v => rfl
  | ok _ =>
    have hcol : (l.down n).col = l.col := rfl
    dsimp only [mapError_ok, bind, Except.bind]
    rw [hcol]
    split
    · rfl
    · cases g.headers[l.col]? with
      | none => rfl
      | some name => rfl

theorem headerIndex_down (h : Moved g g' l n) (name : String) :
    g'.headerIndex (l.down n) profile name =
      (g.headerIndex l profile name).mapError (Violation.down n) := by
  rw [headerIndex, headerIndex, h.check_down, h.headers]
  cases g.check l profile with
  | error v => rfl
  | ok _ =>
    cases g.headers.idxOf? name with
    | none => rfl
    | some col => rfl

/-- **The other cells of a row are read where the row stands.** -/
theorem rowValue_down (h : Moved g g' l n) (name : String) :
    g'.rowValue (l.down n) profile name =
      (g.rowValue l profile name).mapError (Violation.down n) := by
  rw [rowValue, rowValue, h.headerIndex_down]
  cases g.headerIndex l profile name with
  | error v => rfl
  | ok col => exact (h.withCol col).cell_down profile

theorem dataCell_down (h : Moved g g' l n) (fields : List String) :
    g'.dataCell (l.down n) profile fields =
      (g.dataCell l profile fields).mapError (Violation.down n) := by
  rw [dataCell, dataCell, h.cell_down, h.isHeader_down, h.headers]
  cases g.cell l profile with
  | error v => rfl
  | ok value =>
    cases l.isHeader with
    | true => rfl
    | false =>
      have hcol : (l.down n).col = l.col := rfl
      dsimp only [mapError_ok, bind, Except.bind]
      rw [hcol]
      cases g.headers[l.col]? with
      | none => rfl
      | some name => rfl

end Moved

/-! ## Rows above and below each other -/

/-- The locations of the cells of data rows. -/
def dataLocations (rows : List (List String)) : List Location :=
  (rows.zipIdx 1).flatMap fun (cells, row) => rowLocations row cells

variable {header : List String} {rows above below : List (List String)} {l : Location}

theorem locations_cons (header : List String) (rows : List (List String)) :
    (⟨header :: rows⟩ : Grid).locations = rowLocations 0 header ++ dataLocations rows := by
  rw [locations, List.zipIdx_cons, List.flatMap_cons]
  rfl

theorem row_of_mem_dataLocations (h : l ∈ dataLocations rows) :
    ∃ i cells, l.row = i + 1 ∧ rows[i]? = some cells := by
  obtain ⟨⟨cells, row⟩, hmem, hl⟩ := List.mem_flatMap.mp h
  obtain ⟨hle, hget⟩ := List.mk_mem_zipIdx_iff_le_and_getElem?_sub.mp hmem
  have hrow : l.row = row := (mem_rowLocations_iff.mp hl).1
  exact ⟨row - 1, cells, by omega, hget⟩

theorem rowLocations_add (row n : Nat) (cells : List String) :
    rowLocations (row + n) cells = (rowLocations row cells).map (Location.down n) := by
  rw [rowLocations, rowLocations, List.map_map]
  rfl

/-- Rows below others are numbered from there. -/
theorem dataLocations_append (above below : List (List String)) :
    dataLocations (above ++ below) =
      dataLocations above ++ (dataLocations below).map (Location.down above.length) := by
  have hbelow (first : Nat) :
      (below.zipIdx (first + above.length)).flatMap (fun p => rowLocations p.2 p.1) =
        ((below.zipIdx first).flatMap fun p => rowLocations p.2 p.1).map
          (Location.down above.length) := by
    induction below generalizing first with
    | nil => rfl
    | cons cells below ih =>
      rw [List.zipIdx_cons, List.zipIdx_cons, List.flatMap_cons, List.flatMap_cons, List.map_append,
        ← rowLocations_add, ← ih (first + 1), Nat.add_right_comm]
  rw [dataLocations, List.zipIdx_append, List.flatMap_append]
  exact congrArg (dataLocations above ++ ·) (hbelow 1)

/-- Rows with others below them stand where they stood. -/
theorem moved_above (h : l ∈ dataLocations above) :
    Moved ⟨header :: above⟩ ⟨header :: (above ++ below)⟩ l 0 := by
  obtain ⟨i, cells, hrow, hget⟩ := row_of_mem_dataLocations h
  have hlt : i < above.length := (List.getElem?_eq_some_iff.mp hget).1
  refine ⟨rfl, ⟨cells, ?_, ?_⟩, fun _ => rfl⟩
  · rw [hrow]
    exact hget
  · rw [hrow]
    exact (List.getElem?_append_left hlt).trans hget

/-- Rows with others above them stand further down by the number of these. -/
theorem moved_below (h : l ∈ dataLocations below) :
    Moved ⟨header :: below⟩ ⟨header :: (above ++ below)⟩ l above.length := by
  obtain ⟨i, cells, hrow, hget⟩ := row_of_mem_dataLocations h
  refine ⟨rfl, ⟨cells, ?_, ?_⟩, fun hzero => by omega⟩
  · rw [hrow]
    exact hget
  · rw [hrow, Nat.add_right_comm, Nat.add_comm i]
    show (above ++ below)[above.length + i]? = some cells
    rw [List.getElem?_append_right (Nat.le_add_right _ _), Nat.add_sub_cancel_left]
    exact hget

theorem moved_header (h : l ∈ rowLocations 0 header) :
    Moved ⟨[header]⟩ ⟨header :: rows⟩ l 0 := by
  have hrow : l.row = 0 := (mem_rowLocations_iff.mp h).1
  refine ⟨rfl, ⟨header, ?_, ?_⟩, fun _ => rfl⟩
  · rw [hrow]
    rfl
  · rw [hrow]
    rfl

end Grid
end MetadataAudit
