import Mathlib.Data.List.Range
import MetadataAudit.Grid
import MetadataAudit.Proofs.Outcome

/-! # Cells and their locations

A location is accepted when there is a cell at it (`check_eq_ok_iff`).  Any other is refused, and the
refusal names the location and the profile that were asked for (`exists_check_eq_error`).  The
locations of a grid are those of its cells (`mem_locations_iff`), each listed once and row by row
(`pairwise_locations`).
-/
namespace MetadataAudit

namespace Location

/-- `l` is read before `m` when a grid is read row by row. -/
def Before (l m : Location) : Prop := l.row < m.row ∨ (l.row = m.row ∧ l.col < m.col)

theorem Before.le {l m : Location} (h : l.Before m) : l.le m = true := by
  rw [Location.le, Bool.or_eq_true, Bool.and_eq_true, beq_iff_eq, decide_eq_true_eq,
    decide_eq_true_eq]
  rcases h with hrow | ⟨hrow, hcol⟩
  · exact Or.inl hrow
  · exact Or.inr ⟨hrow, Nat.le_of_lt hcol⟩

theorem le_refl (l : Location) : l.le l = true := by
  simp [Location.le]

end Location

namespace Grid

variable {g : Grid} {l : Location} {profile value : String} {v : Violation}

theorem get?_eq_some_iff :
    g.get? l = some value ↔ ∃ cells, g.rows[l.row]? = some cells ∧ cells[l.col]? = some value :=
  Option.bind_eq_some_iff

theorem check_of_get?_eq_some (h : g.get? l = some value) : g.check l profile = .ok () := by
  obtain ⟨cells, hrow, hcol⟩ := get?_eq_some_iff.mp h
  have hlt : l.col < cells.length := (List.getElem?_eq_some_iff.mp hcol).1
  simp only [check, hrow, hlt, if_true]

/-- What is refused is refused under the location and the profile that were asked for. -/
theorem exists_check_eq_error (h : g.get? l = none) (profile : String) :
    ∃ v, g.check l profile = .error v ∧ v.location = l ∧ v.profile = profile := by
  rw [check]
  cases hrow : g.rows[l.row]? with
  | none => exact ⟨_, rfl, rfl, rfl⟩
  | some cells =>
    have hlt : ¬ l.col < cells.length := by
      intro hlt
      have hget : g.get? l = some cells[l.col] :=
        get?_eq_some_iff.mpr ⟨cells, hrow, List.getElem?_eq_getElem hlt⟩
      rw [h] at hget
      cases hget
    simp only [hlt, if_false]
    exact ⟨_, rfl, rfl, rfl⟩

theorem check_eq_ok_iff : g.check l profile = .ok () ↔ ∃ value, g.get? l = some value := by
  constructor
  · intro h
    cases hget : g.get? l with
    | none =>
      obtain ⟨v, hv, -⟩ := exists_check_eq_error hget profile
      rw [h] at hv
      cases hv
    | some value => exact ⟨value, rfl⟩
  · rintro ⟨value, h⟩
    exact check_of_get?_eq_some h

theorem address_of_check_eq_error (h : g.check l profile = .error v) :
    v.location = l ∧ v.profile = profile := by
  cases hget : g.get? l with
  | none =>
    obtain ⟨w, hw, haddress⟩ := exists_check_eq_error hget profile
    rw [h] at hw
    cases hw
    exact haddress
  | some value =>
    rw [check_of_get?_eq_some hget] at h
    cases h

theorem cell_of_check_eq_error (h : g.check l profile = .error v) :
    g.cell l profile = .error v := by
  rw [cell, h]
  rfl

theorem cell_of_get?_eq_some (h : g.get? l = some value) : g.cell l profile = .ok value := by
  rw [cell, check_of_get?_eq_some h, h]
  rfl

/-- Reading a cell fails only where there is none. -/
theorem cell_eq_error_iff : g.cell l profile = .error v ↔ g.check l profile = .error v := by
  constructor
  · intro h
    cases hget : g.get? l with
    | none =>
      obtain ⟨w, hw, -⟩ := exists_check_eq_error hget profile
      rw [cell_of_check_eq_error hw] at h
      cases h
      exact hw
    | some value =>
      rw [cell_of_get?_eq_some hget] at h
      cases h
  · exact cell_of_check_eq_error

/-! ## Field names and what stands under them -/

/-- The text of a row in the first column of a field, if there is such a column and the row gets that
far. -/
def rowText? (g : Grid) (row : Nat) (field : String) : Option String :=
  g.headers.idxOf? field >>= fun col => g.get? ⟨row, col⟩

/-- Why there is no field name above a cell. -/
def noHeader (g : Grid) (l : Location) (profile : String) : Violation :=
  if g.headers = [] then .of "the first row of the grid is empty" l profile
  else .of s!"column {l.col} has no header" l profile

/-- Why the row of a cell has no text under a field. -/
def noRowText (g : Grid) (l : Location) (profile field : String) : Violation :=
  match g.headers.idxOf? field with
  | none => (Violation.of s!"conditional field '{field}' was not found" l profile).causedBy
      (.of s!"supplied header '{field}' was not located in first row" l profile)
  | some col => .of s!"column {col} is out of bounds" (l.withCol col) profile

/-- Row 0 holds the field names. -/
theorem get?_row_zero (g : Grid) (col : Nat) : g.get? ⟨0, col⟩ = g.headers[col]? := by
  cases hrows : g.rows with
  | nil => simp [get?, headers, hrows]
  | cons row rows => simp [get?, headers, hrows]

theorem header_eq_ok {name : String} (hget : g.get? l = some value)
    (hname : g.headers[l.col]? = some name) : g.header l profile = .ok name := by
  have hne : g.headers ≠ [] := List.ne_nil_of_mem (List.mem_of_getElem? hname)
  rw [header, check_of_get?_eq_some hget]
  simp only [bind, Except.bind, List.isEmpty_iff, hne, if_false, hname]
  rfl

theorem header_eq_error (hget : g.get? l = some value) (hname : g.headers[l.col]? = none) :
    g.header l profile = .error (g.noHeader l profile) := by
  rw [header, check_of_get?_eq_some hget, noHeader]
  simp only [bind, Except.bind, List.isEmpty_iff, hname]
  split <;> rfl

theorem rowValue_eq_ok {field text : String} (hget : g.get? l = some value)
    (htext : g.rowText? l.row field = some text) : g.rowValue l profile field = .ok text := by
  obtain ⟨col, hcol, hcell⟩ := Option.bind_eq_some_iff.mp htext
  have hindex : g.headerIndex l profile field = .ok col := by
    rw [headerIndex, check_of_get?_eq_some hget, hcol]
    rfl
  rw [rowValue, hindex]
  exact cell_of_get?_eq_some hcell

theorem rowValue_eq_error {field : String} (hget : g.get? l = some value)
    (htext : g.rowText? l.row field = none) :
    g.rowValue l profile field = .error (g.noRowText l profile field) := by
  rw [rowValue, noRowText, headerIndex, check_of_get?_eq_some hget]
  cases hcol : g.headers.idxOf? field with
  | none => rfl
  | some col =>
    have hcell : g.get? (l.withCol col) = none := by
      rw [rowText?, hcol] at htext
      exact htext
    -- the row is there, so it is the column that is not
    obtain ⟨cells, hrow, -⟩ := get?_eq_some_iff.mp hget
    have hshort : ¬ col < cells.length := by
      intro hlt
      have hsome : g.get? (l.withCol col) = some cells[col] :=
        get?_eq_some_iff.mpr ⟨cells, hrow, List.getElem?_eq_getElem hlt⟩
      rw [hcell] at hsome
      cases hsome
    refine cell_of_check_eq_error ?_
    rw [check, Location.row_withCol, hrow]
    simp only [Location.col_withCol, hshort, if_false]

/-! ## The list of all locations -/

theorem mem_rowLocations_iff {row : Nat} {cells : List String} :
    l ∈ rowLocations row cells ↔ l.row = row ∧ l.col < cells.length := by
  simp only [rowLocations, List.mem_map, List.mem_range]
  constructor
  · rintro ⟨col, hcol, rfl⟩
    exact ⟨rfl, hcol⟩
  · rintro ⟨rfl, hcol⟩
    exact ⟨l.col, hcol, rfl⟩

/-- The locations of a grid are those at which there is a cell. -/
theorem mem_locations_iff : l ∈ g.locations ↔ ∃ value, g.get? l = some value := by
  simp only [locations, List.mem_flatMap, Prod.exists, List.mk_mem_zipIdx_iff_getElem?,
    mem_rowLocations_iff, get?_eq_some_iff]
  constructor
  · rintro ⟨cells, row, hrow, rfl, hcol⟩
    exact ⟨cells[l.col], cells, hrow, List.getElem?_eq_getElem hcol⟩
  · rintro ⟨value, cells, hrow, hcol⟩
    exact ⟨cells, l.row, hrow, rfl, (List.getElem?_eq_some_iff.mp hcol).1⟩

theorem pairwise_rowLocations (row : Nat) (cells : List String) :
    (rowLocations row cells).Pairwise Location.Before := by
  rw [rowLocations, List.pairwise_map]
  exact List.pairwise_lt_range.imp fun hlt => Or.inr ⟨rfl, hlt⟩

/-- **The locations are listed row by row**, and none of them twice. -/
theorem pairwise_locations (g : Grid) : g.locations.Pairwise Location.Before := by
  rw [locations, List.pairwise_flatMap]
  refine ⟨fun p _ => pairwise_rowLocations p.2 p.1, ?_⟩
  -- rows are numbered in the order in which they stand
  have hrows : g.rows.zipIdx.Pairwise fun p q => p.2 < q.2 := by
    rw [List.zipIdx_eq_zip_range', ← List.pairwise_map (f := Prod.snd), List.map_snd_zip (by simp)]
    exact List.pairwise_lt_range'
  refine hrows.imp fun hlt l hl m hm => Or.inl ?_
  rw [(mem_rowLocations_iff.mp hl).1, (mem_rowLocations_iff.mp hm).1]
  exact hlt

theorem filterMap_getElem?_range (cells : List String) :
    ((List.range cells.length).filterMap fun col => cells[col]?) = cells := by
  induction cells with
  | nil => rfl
  | cons cell cells ih =>
    rw [List.length_cons, List.range_succ_eq_map, List.filterMap_cons, List.filterMap_map]
    exact congrArg (cell :: ·) ih

/-- **The texts at the locations of a grid** are the texts of its rows, one row after another. -/
theorem filterMap_get?_locations (g : Grid) : g.locations.filterMap g.get? = g.rows.flatten := by
  have hrow : ∀ p ∈ g.rows.zipIdx, (rowLocations p.2 p.1).filterMap g.get? = p.1 := by
    intro p hp
    have hget : ∀ col, g.get? ⟨p.2, col⟩ = p.1[col]? := by
      intro col
      rw [get?, List.mk_mem_zipIdx_iff_getElem?.mp hp]
      rfl
    rw [rowLocations, List.filterMap_map]
    exact (List.filterMap_congr fun col _ => hget col).trans (filterMap_getElem?_range p.1)
  rw [locations, List.filterMap_flatMap, List.flatMap_congr hrow, List.flatMap_def,
    List.zipIdx_map_fst]

end Grid
end MetadataAudit
