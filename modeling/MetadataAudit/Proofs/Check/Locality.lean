import MetadataAudit.Proofs.Check.Scan
import MetadataAudit.Proofs.Grid.Moved

/-! # Checks that judge row by row

Most checks remember nothing from cell to cell, and what they report of a cell depends on the header
row and on the row of the cell alone (`Kind.reported_down`).  A scan of rows above and below each other
therefore reports what scans of the rows above and of the rows below report (`Kind.scan_append_rows`).
-/
namespace MetadataAudit

open Grid (Moved)

section Checks

variable {g g' : Grid} {l : Location} {n : Nat} {profile : String}

theorem Check.onField_down (h : Moved g g' l n) {fields : List String} {judge judge' : String → Outcome}
    (hjudge : ∀ value,
      (judge' value).violations = (judge value).violations.map (Violation.down n)) :
    (onField fields profile (l.down n) g' judge').violations =
      (onField fields profile l g judge).violations.map (Violation.down n) := by
  rw [onField, onField, h.dataCell_down]
  cases g.dataCell l profile fields with
  | error v => rfl
  | ok value? =>
    cases value? with
    | none => rfl
    | some value => exact hjudge value

theorem Check.lineBreak_down (h : Moved g g' l n) : (lineBreak profile (l.down n) g').violations =
    (lineBreak profile l g).violations.map (Violation.down n) := by
  rw [lineBreak, lineBreak, h.cell_down]
  cases g.cell l profile with
  | error v => rfl
  | ok value =>
    dsimp only [mapError_ok]
    split <;> rfl

theorem Check.fileName_down (h : Moved g g' l n) : (fileName profile (l.down n) g').violations =
    (fileName profile l g).violations.map (Violation.down n) := by
  refine onField_down h fun value => ?_
  split <;> rfl

theorem Check.vocabulary_down (h : Moved g g' l n) (voc : Vocabulary) :
    (vocabulary voc profile (l.down n) g').violations =
      (vocabulary voc profile l g).violations.map (Violation.down n) := by
  refine onField_down h fun value => ?_
  split
  · rfl
  · split <;> rfl

theorem Ark.check_down (h : Moved g g' l n) (rules : Rulebook) :
    (check rules profile (l.down n) g').violations =
      (check rules profile l g).violations.map (Violation.down n) := by
  refine Check.onField_down h fun value => ?_
  split
  · rfl
  · dsimp only
    rw [List.map_map]
    rfl

theorem HostFile.check_down (h : Moved g g' l n) (ctx : Context) :
    (check ctx profile (l.down n) g').violations =
      (check ctx profile l g).violations.map (Violation.down n) := by
  refine Check.onField_down h fun value => ?_
  split
  · rfl
  · split
    · rfl
    · dsimp only
      split <;> rfl

theorem Sequence.isPage_down (h : Moved g g' l n) :
    isPage profile (l.down n) g' = isPage profile l g := by
  rw [isPage, isPage, h.rowValue_down]
  cases g.rowValue l profile Field.objectType with
  | error v => rfl
  | ok objectType => rfl

theorem Sequence.check_down (h : Moved g g' l n) : (check profile (l.down n) g').violations =
    (check profile l g).violations.map (Violation.down n) := by
  refine Check.onField_down h fun value => ?_
  rw [isPage_down h]
  split
  · split <;> rfl
  · split
    · split <;> rfl
    · rfl

theorem RequiredField.headerFields_down (h : Moved g g' l n) (table : FieldTable) :
    (headerFields table profile (l.down n) g').violations =
      (headerFields table profile l g).violations.map (Violation.down n) := by
  rw [headerFields, headerFields, h.headers]
  dsimp only
  rw [List.map_map]
  rfl

theorem RequiredField.filled_down (h : Moved g g' l n) (name : String) :
    (filled name profile (l.down n) g').violations =
      (filled name profile l g).violations.map (Violation.down n) := by
  rw [filled, filled, h.get?_down]
  dsimp only
  split <;> rfl

theorem RequiredField.data_down (h : Moved g g' l n) (name : String) (condition : Condition) :
    (data name condition profile (l.down n) g').violations =
      (data name condition profile l g).violations.map (Violation.down n) := by
  rw [data, data, h.rowValue_down]
  split
  · cases g.rowValue l profile Field.objectType with
    | error v => rfl
    | ok objectType =>
      dsimp only [mapError_ok]
      split
      · exact filled_down h name
      · rfl
  · exact filled_down h name

theorem RequiredField.dataCell_down (h : Moved g g' l n) (table : FieldTable) :
    (dataCell table profile (l.down n) g').violations =
      (dataCell table profile l g).violations.map (Violation.down n) := by
  rw [dataCell, dataCell, h.header_down]
  cases g.header l profile with
  | error v => rfl
  | ok name =>
    dsimp only [mapError_ok]
    split
    · split
      · exact data_down h name _
      · rfl
    · rfl

theorem RequiredField.check_down (h : Moved g g' l n) (rules : Rulebook) :
    (check rules profile (l.down n) g').violations =
      (check rules profile l g).violations.map (Violation.down n) := by
  rw [check, check, h.check_down, h.isHeader_down]
  simp only [h.down_eq_origin_iff]
  cases g.check l profile with
  | error v => rfl
  | ok _ =>
    dsimp only [mapError_ok]
    split
    · split <;> rfl
    · split
      · exact headerFields_down h _
      · split
        · rfl
        · exact dataCell_down h _

end Checks

namespace Kind

variable {k : Kind} {ctx : Context} {profile : String}

/-- The kinds that judge each cell by itself. -/
def memoryless : List Kind :=
  [lineBreak, ark, requiredField, objectType, visibility, sequence, hostFile, fileName]

theorem offer_of_memoryless (hk : k ∈ memoryless) (ctx : Context) (memo : Memo) (o : Offer) :
    k.offer ctx memo o = ((k.offer ctx {} o).1, memo) := by
  cases k with
  | license | media | replacement => exact absurd hk (by decide)
  | _ => rfl

theorem offerAll_of_memoryless (hk : k ∈ memoryless) (ctx : Context) (memo : Memo)
    (os : List Offer) :
    (k.offerAll ctx memo os).1 = os.map fun o => (k.offer ctx {} o).1 := by
  induction os generalizing memo with
  | nil => rfl
  | cons o os ih =>
    rw [offerAll, offer_of_memoryless hk ctx memo o]
    dsimp only
    rw [ih, List.map_cons]

/-- What a kind reports of one cell. -/
def reported (k : Kind) (ctx : Context) (profile : String) (g : Grid) (l : Location) : Violations :=
  (k.offer ctx {} ⟨profile, l, g⟩).1.violations

/-- **A cell is judged by its row and the header row**, wherever the row stands. -/
theorem reported_down (hk : k ∈ memoryless) {g g' : Grid} {l : Location} {n : Nat}
    (h : Moved g g' l n) :
    k.reported ctx profile g' (l.down n) =
      (k.reported ctx profile g l).map (Violation.down n) := by
  cases k with
  | lineBreak => exact Check.lineBreak_down h
  | ark => exact Ark.check_down h _
  | requiredField => exact RequiredField.check_down h _
  | objectType => exact Check.vocabulary_down h _
  | visibility => exact Check.vocabulary_down h _
  | sequence => exact Sequence.check_down h
  | hostFile => exact HostFile.check_down h _
  | fileName => exact Check.fileName_down h
  | license | media | replacement => exact absurd hk (by decide)

theorem reported_of_moved (hk : k ∈ memoryless) {g g' : Grid} {l : Location}
    (h : Moved g g' l 0) : k.reported ctx profile g' l = k.reported ctx profile g l := by
  rw [← Violation.map_down_zero (k.reported ctx profile g l)]
  exact reported_down hk h

theorem scan_of_memoryless (hk : k ∈ memoryless) (ctx : Context) (profile : String) (g : Grid) :
    (k.scan ctx profile g).violations = g.locations.flatMap (k.reported ctx profile g) := by
  rw [violations_scan, offerAll_of_memoryless hk, Offer.ofGrid, List.map_map, List.flatMap_map]
  rfl

end Kind

namespace Violations

/-- The violations of cells of the header row. -/
def inHeader (vs : Violations) : Violations := vs.filter fun v => v.location.isHeader

/-- The violations of cells of data rows. -/
def inData (vs : Violations) : Violations := vs.filter fun v => !v.location.isHeader

end Violations

namespace Kind

variable {k : Kind} {ctx : Context} {profile : String} {header : List String}
  {rows above below : List (List String)}

/-- The violations of cells of one sort are those that the cells of this sort are reported with. -/
theorem filter_flatMap_reported (p : Location → Bool) (g : Grid) (ls : List Location) :
    (ls.flatMap (k.reported ctx profile g)).filter (fun v => p v.location) =
      (ls.filter p).flatMap (k.reported ctx profile g) := by
  induction ls with
  | nil => rfl
  | cons l ls ih =>
    have hhead : (k.reported ctx profile g l).filter (fun v => p v.location) =
        if p l then k.reported ctx profile g l else [] := by
      have hlocation : ∀ v ∈ k.reported ctx profile g l, v.location = l :=
        fun v hv => (about_offer k ctx {} ⟨profile, l, g⟩ v hv).1
      split
      · rename_i hp
        refine List.filter_eq_self.mpr fun v hv => ?_
        rw [hlocation v hv]
        exact hp
      · rename_i hp
        refine List.filter_eq_nil_iff.mpr fun v hv => ?_
        rw [hlocation v hv]
        exact hp
    rw [List.flatMap_cons, List.filter_append, ih, hhead, List.filter_cons]
    split
    · rw [List.flatMap_cons]
    · rfl

theorem inData_scan (hk : k ∈ memoryless) :
    (k.scan ctx profile ⟨header :: rows⟩).violations.inData =
      (Grid.dataLocations rows).flatMap (k.reported ctx profile ⟨header :: rows⟩) := by
  rw [scan_of_memoryless hk, Violations.inData,
    filter_flatMap_reported fun l => !l.isHeader, Grid.locations_cons, List.filter_append]
  have hheader : (Grid.rowLocations 0 header).filter (fun l => !l.isHeader) = [] := by
    refine List.filter_eq_nil_iff.mpr fun l hl => ?_
    simp [Location.isHeader, (Grid.mem_rowLocations_iff.mp hl).1]
  have hdata : (Grid.dataLocations rows).filter (fun l => !l.isHeader) = Grid.dataLocations rows := by
    refine List.filter_eq_self.mpr fun l hl => ?_
    obtain ⟨i, -, hrow, -⟩ := Grid.row_of_mem_dataLocations hl
    simp [Location.isHeader, hrow]
  rw [hheader, hdata, List.nil_append]

theorem inHeader_scan (hk : k ∈ memoryless) :
    (k.scan ctx profile ⟨header :: rows⟩).violations.inHeader =
      (Grid.rowLocations 0 header).flatMap (k.reported ctx profile ⟨header :: rows⟩) := by
  rw [scan_of_memoryless hk, Violations.inHeader, filter_flatMap_reported Location.isHeader,
    Grid.locations_cons, List.filter_append]
  have hheader : (Grid.rowLocations 0 header).filter Location.isHeader =
      Grid.rowLocations 0 header := by
    refine List.filter_eq_self.mpr fun l hl => ?_
    exact Location.isHeader_eq_true.mpr (Grid.mem_rowLocations_iff.mp hl).1
  have hdata : (Grid.dataLocations rows).filter Location.isHeader = [] := by
    refine List.filter_eq_nil_iff.mpr fun l hl => ?_
    obtain ⟨i, -, hrow, -⟩ := Grid.row_of_mem_dataLocations hl
    simp [Location.isHeader, hrow]
  rw [hheader, hdata, List.append_nil]

/-- The header row is judged by itself. -/
theorem inHeader_scan_eq (hk : k ∈ memoryless) :
    (k.scan ctx profile ⟨header :: rows⟩).violations.inHeader =
      (k.scan ctx profile ⟨[header]⟩).violations.inHeader := by
  rw [inHeader_scan hk, inHeader_scan hk]
  exact List.flatMap_congr fun l hl => reported_of_moved hk (Grid.moved_header hl)

/-- **Rows are judged apart.**  What a check without memory reports of data rows is what it reports of
those above and then of those below, with the numbers that these rows have together; of the header row
it reports the same whatever rows follow.  Rows of other numbers are reported in the same words. -/
theorem scan_append_rows (hk : k ∈ memoryless) (ctx : Context) (profile : String)
    (header : List String) (above below : List (List String)) :
    (k.scan ctx profile ⟨header :: (above ++ below)⟩).violations.inData =
      (k.scan ctx profile ⟨header :: above⟩).violations.inData ++
        (k.scan ctx profile ⟨header :: below⟩).violations.inData.map
          (Violation.down above.length) ∧
    (k.scan ctx profile ⟨header :: above⟩).violations.inHeader =
      (k.scan ctx profile ⟨header :: below⟩).violations.inHeader ∧
    ∀ (v : Violation) (n : Nat), (v.down n).location = ⟨v.location.row + n, v.location.col⟩ ∧
      (v.down n).profile = v.profile ∧ (v.down n).message = v.message ∧
      (v.down n).userMessage = v.userMessage := by
  refine ⟨?_, ?_, fun v n => ⟨rfl, rfl, rfl, v.userMessage_down n⟩⟩
  · rw [inData_scan hk, inData_scan hk, inData_scan hk, Grid.dataLocations_append,
      List.flatMap_append, List.flatMap_map, List.map_flatMap]
    have habove : ∀ l ∈ Grid.dataLocations above,
        k.reported ctx profile ⟨header :: (above ++ below)⟩ l =
          k.reported ctx profile ⟨header :: above⟩ l :=
      fun l hl => reported_of_moved hk (Grid.moved_above hl)
    rw [List.flatMap_congr habove]
    refine congrArg _ (List.flatMap_congr fun l hl => ?_)
    exact reported_down hk (Grid.moved_below hl)
  · exact (inHeader_scan_eq hk).trans (inHeader_scan_eq hk).symm

/-- Sequences are judged by the object type of their row, which a short row lacks. -/
theorem scan_append_rows_sequence :
    let ctx : Context := { store := .empty none .epoch, rules := .builtin }
    let header := ["Item Sequence", "Object Type"]
    let above := [["0", "Work"], []]
    let below := [["", "Page"], ["x"]]
    sequence ∈ memoryless ∧
    (sequence.scan ctx "p" ⟨header :: (above ++ below)⟩).violations.inData.map
      Violation.location = [⟨1, 0⟩, ⟨3, 0⟩, ⟨4, 0⟩] ∧
    (sequence.scan ctx "p" ⟨header :: (above ++ below)⟩).violations.inData =
      (sequence.scan ctx "p" ⟨header :: above⟩).violations.inData ++
        (sequence.scan ctx "p" ⟨header :: below⟩).violations.inData.map (Violation.down 2) := by
  intro ctx header above below
  have hk : sequence ∈ memoryless := by decide
  exact ⟨hk, by decide, (scan_append_rows hk ctx "p" header above below).1⟩

end Kind
end MetadataAudit
