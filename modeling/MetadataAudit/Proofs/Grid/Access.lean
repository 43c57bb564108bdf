import MetadataAudit.Grid.Indexed
import MetadataAudit.Proofs.Grid.Cells

/-! # What the accessors of a grid answer

A location is accepted where there is a cell, and nothing is read by an index before the location has been
accepted, so no reading halts (`Grid.run_readCell`, `Grid.run_readRowValue`).  Every accessor is refused
where the location is, and where it is not the accessors answer by what stands in the rows, however long
these are (`Grid.accessors_agree`).
-/
namespace MetadataAudit

namespace Location

theorem Before.ne {l m : Location} (h : l.Before m) : l ≠ m := by
  rintro rfl
  rcases h with hrow | ⟨-, hcol⟩
  · exact Nat.lt_irrefl _ hrow
  · exact Nat.lt_irrefl _ hcol

end Location

namespace Grid

variable {g : Grid} {l : Location} {profile field text name : String} {col : Nat} {v w : Violation}

/-! ## Reading by index -/

/-- **A cell is read inside the grid** or refused. -/
theorem run_readCell (g : Grid) (l : Location) (profile : String) :
    (g.readCell l profile).run = some (g.cell l profile) := by
  cases hget : g.get? l with
  | none =>
    obtain ⟨v, hv, -⟩ := exists_check_eq_error hget profile
    rw [readCell, hv, cell_of_check_eq_error hv]
    rfl
  | some text =>
    obtain ⟨cells, hrow, hcol⟩ := get?_eq_some_iff.mp hget
    rw [readCell, check_of_get?_eq_some hget, cell_of_get?_eq_some hget, Reading.index, hrow]
    show (Reading.index cells l.col).run = _
    rw [Reading.index, hcol]
    rfl

/-- **A row is read inside the grid** or refused, also where it ends before the field. -/
theorem run_readRowValue (g : Grid) (l : Location) (profile field : String) :
    (g.readRowValue l profile field).run = some (g.rowValue l profile field) := by
  rw [readRowValue, rowValue]
  cases g.headerIndex l profile field with
  | error v => rfl
  | ok col => exact g.run_readCell (l.withCol col) profile

/-! ## What is read -/

theorem check_eq_ok_iff_lt : g.check l profile = .ok () ↔
    ∃ cells, g.rows[l.row]? = some cells ∧ l.col < cells.length := by
  rw [check_eq_ok_iff]
  constructor
  · rintro ⟨value, hget⟩
    obtain ⟨cells, hrow, hcol⟩ := get?_eq_some_iff.mp hget
    exact ⟨cells, hrow, (List.getElem?_eq_some_iff.mp hcol).1⟩
  · rintro ⟨cells, hrow, hlt⟩
    exact ⟨cells[l.col], get?_eq_some_iff.mpr ⟨cells, hrow, List.getElem?_eq_getElem hlt⟩⟩

theorem cell_eq_ok_iff :
    g.cell l profile = .ok text ↔ g.check l profile = .ok () ∧ g.get? l = some text := by
  constructor
  · intro h
    cases hget : g.get? l with
    | none =>
      obtain ⟨v, hv, -⟩ := exists_check_eq_error hget profile
      rw [cell_of_check_eq_error hv] at h
      cases h
    | some value =>
      rw [cell_of_get?_eq_some hget] at h
      cases h
      exact ⟨check_of_get?_eq_some hget, rfl⟩
  · rintro ⟨-, hget⟩
    exact cell_of_get?_eq_some hget

theorem exists_cell_iff : (∃ text, g.cell l profile = .ok text) ↔ g.check l profile = .ok () := by
  simp only [cell_eq_ok_iff, exists_and_left]
  exact and_iff_left_of_imp check_eq_ok_iff.mp

theorem header_eq_ok_iff :
    g.header l profile = .ok name ↔ g.check l profile = .ok () ∧ g.headers[l.col]? = some name := by
  constructor
  · intro h
    obtain ⟨_, hcheck, _⟩ := bind_eq_ok_iff.mp h
    obtain ⟨value, hget⟩ := check_eq_ok_iff.mp hcheck
    cases hname : g.headers[l.col]? with
    | none =>
      rw [header_eq_error hget hname] at h
      cases h
    | some name' =>
      rw [header_eq_ok hget hname] at h
      cases h
      exact ⟨hcheck, rfl⟩
  · rintro ⟨hcheck, hname⟩
    obtain ⟨value, hget⟩ := check_eq_ok_iff.mp hcheck
    exact header_eq_ok hget hname

theorem exists_header_iff : (∃ name, g.header l profile = .ok name) ↔
    g.check l profile = .ok () ∧ l.col < g.headers.length := by
  simp only [header_eq_ok_iff, exists_and_left, List.getElem?_eq_some_iff]
  refine and_congr_right fun _ => ?_
  constructor
  · rintro ⟨_, hlt, _⟩
    exact hlt
  · intro hlt
    exact ⟨_, hlt, rfl⟩

theorem headerIndex_eq_ok_iff : g.headerIndex l profile field = .ok col ↔
    g.check l profile = .ok () ∧ g.headers.idxOf? field = some col := by
  rw [headerIndex, bind_eq_ok_iff]
  constructor
  · rintro ⟨_, hcheck, hindex⟩
    refine ⟨hcheck, ?_⟩
    cases hfound : g.headers.idxOf? field with
    | none =>
      rw [hfound] at hindex
      cases hindex
    | some found =>
      rw [hfound] at hindex
      cases hindex
      rfl
  · rintro ⟨hcheck, hindex⟩
    exact ⟨(), hcheck, by rw [hindex]; rfl⟩

theorem exists_headerIndex_iff : (∃ col, g.headerIndex l profile field = .ok col) ↔
    g.check l profile = .ok () ∧ field ∈ g.headers := by
  simp only [headerIndex_eq_ok_iff, exists_and_left]
  rw [← Option.isSome_iff_exists, List.isSome_idxOf?]

/-- The first column of a field has that name, and no earlier column has it. -/
theorem idxOf?_headers_eq_some_iff : g.headers.idxOf? field = some col ↔
    g.headers[col]? = some field ∧ ∀ earlier < col, g.headers[earlier]? ≠ some field := by
  rw [List.idxOf?_eq_some_iff, List.getElem?_eq_some_iff]
  constructor
  · rintro ⟨hcol, heq, hbefore⟩
    refine ⟨⟨hcol, heq⟩, fun earlier hlt hearlier => ?_⟩
    obtain ⟨_, hfield⟩ := List.getElem?_eq_some_iff.mp hearlier
    exact hbefore earlier hlt hfield
  · rintro ⟨⟨hcol, heq⟩, hbefore⟩
    refine ⟨hcol, heq, fun earlier hlt hfield => hbefore earlier hlt ?_⟩
    rw [List.getElem?_eq_getElem (Nat.lt_trans hlt hcol), hfield]

theorem rowValue_eq_ok_iff : g.rowValue l profile field = .ok text ↔
    ∃ col, g.headerIndex l profile field = .ok col ∧ g.get? ⟨l.row, col⟩ = some text := by
  rw [rowValue]
  cases g.headerIndex l profile field with
  | error v => simp
  | ok col =>
    simp only [Except.ok.injEq, exists_eq_left']
    rw [cell_eq_ok_iff]
    exact and_iff_right_of_imp check_of_get?_eq_some

/-! ## What is refused -/

/-- **Where a location is refused, every accessor is**, and each for that location and profile. -/
theorem refused_of_check_eq_error (h : g.check l profile = .error v) (field : String) :
    v.location = l ∧ v.profile = profile ∧ g.cell l profile = .error v ∧
      g.header l profile = .error v ∧ g.headerIndex l profile field = .error v ∧
      ∃ w, g.rowValue l profile field = .error w ∧ w.location = l ∧ w.profile = profile := by
  obtain ⟨hlocation, hprofile⟩ := address_of_check_eq_error h
  have hheader : g.header l profile = .error v := by
    rw [header, h]
    rfl
  have hindex : g.headerIndex l profile field = .error v := by
    rw [headerIndex, h]
    rfl
  refine ⟨hlocation, hprofile, cell_of_check_eq_error h, hheader, hindex, ?_⟩
  rw [rowValue, hindex]
  exact ⟨_, rfl, rfl, rfl⟩

/-! ## All accessors -/

/-- What the accessors answer at a location: each succeeds under a condition on the rows, and then with
what stands there; what is refused is refused by all; and nothing is read outside the rows. -/
structure Access (g : Grid) (l : Location) (profile field : String) : Prop where
  accepted : g.check l profile = .ok () ↔ ∃ cells, g.rows[l.row]? = some cells ∧ l.col < cells.length
  cell : (∃ text, g.cell l profile = .ok text) ↔ g.check l profile = .ok ()
  cell_text : ∀ text, g.cell l profile = .ok text → g.get? l = some text
  header : (∃ name, g.header l profile = .ok name) ↔
    g.check l profile = .ok () ∧ l.col < g.headers.length
  header_text : ∀ name, g.header l profile = .ok name → g.get? ⟨0, l.col⟩ = some name
  headerIndex : (∃ col, g.headerIndex l profile field = .ok col) ↔
    g.check l profile = .ok () ∧ field ∈ g.headers
  headerIndex_least : ∀ col, g.headerIndex l profile field = .ok col →
    g.get? ⟨0, col⟩ = some field ∧ ∀ earlier < col, g.get? ⟨0, earlier⟩ ≠ some field
  rowValue : (∃ text, g.rowValue l profile field = .ok text) ↔
    ∃ col, g.headerIndex l profile field = .ok col ∧ ∃ text, g.get? ⟨l.row, col⟩ = some text
  rowValue_text : ∀ text, g.rowValue l profile field = .ok text →
    ∃ col, g.headerIndex l profile field = .ok col ∧ g.get? ⟨l.row, col⟩ = some text
  refused : ∀ v, g.check l profile = .error v → v.location = l ∧ v.profile = profile ∧
    g.cell l profile = .error v ∧ g.header l profile = .error v ∧
    g.headerIndex l profile field = .error v ∧
    ∃ w, g.rowValue l profile field = .error w ∧ w.location = l ∧ w.profile = profile
  inside : (g.readCell l profile).run = some (g.cell l profile) ∧
    (g.readRowValue l profile field).run = some (g.rowValue l profile field)

theorem access (g : Grid) (l : Location) (profile field : String) : g.Access l profile field where
  accepted := check_eq_ok_iff_lt
  cell := exists_cell_iff
  cell_text text h := (cell_eq_ok_iff.mp h).2
  header := exists_header_iff
  header_text name h := by
    rw [get?_row_zero]
    exact (header_eq_ok_iff.mp h).2
  headerIndex := exists_headerIndex_iff
  headerIndex_least col h := by
    simp only [get?_row_zero]
    exact idxOf?_headers_eq_some_iff.mp (headerIndex_eq_ok_iff.mp h).2
  rowValue := by
    simp only [rowValue_eq_ok_iff]
    rw [exists_comm]
    simp only [exists_and_left]
  rowValue_text text h := rowValue_eq_ok_iff.mp h
  refused v h := refused_of_check_eq_error h field
  inside := ⟨g.run_readCell l profile, g.run_readRowValue l profile field⟩

/-- **The accessors of a grid agree**, whatever the lengths of its rows are.  Its locations are listed row by
row, each once, and they are the locations that are accepted.  At any location at all, inside the grid or
outside of it, the accessors answer by what stands in the rows; where the location is not accepted they are
all refused for that location and profile; and none of them reads by an index at which there is nothing. -/
theorem accessors_agree (g : Grid) :
    (g.locations.Pairwise Location.Before ∧ g.locations.Nodup ∧
      ∀ l profile, l ∈ g.locations ↔ g.check l profile = .ok ()) ∧
    ∀ l profile field, g.Access l profile field := by
  have hordered := g.pairwise_locations
  refine ⟨⟨hordered, ?_, ?_⟩, g.access⟩
  · exact hordered.imp Location.Before.ne
  · intro l profile
    rw [mem_locations_iff, check_eq_ok_iff]

end Grid
end MetadataAudit
