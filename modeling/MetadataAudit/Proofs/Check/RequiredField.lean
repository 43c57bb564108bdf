import MetadataAudit.Proofs.Check.Locality
import MetadataAudit.Proofs.Dictionary

/-! # Required fields over a grid

What a table of required fields says of a data cell depends on the name above the cell, the rule of
that name and the object type of the row (`RequiredField.verdict?`).  A scan reports this for every
data cell and, at the first cell of the header row, the fields that the row lacks
(`RequiredField.scan_by_table`).  A scan that reports nothing vouches for the cells that are there: a
field that must be filled in is filled in by every row that gets as far as its column, and by no other
(`RequiredField.filled_iff_reached`).
-/
namespace MetadataAudit

/-- Whether a row of a grid must be filled in under a condition.  A condition on the object type holds
in no row that has none. -/
def Condition.holdsIn (c : Condition) (g : Grid) (row : Nat) : Bool :=
  match c with
  | .always => true
  | .onlyFor types => (g.rowText? row Field.objectType).any fun t => t ∈ types.names
  | .exceptFor types => (g.rowText? row Field.objectType).any fun t => t ∉ types.names

theorem Condition.needsObjectType_iff {c : Condition} : c.needsObjectType = true ↔ c ≠ .always := by
  cases c <;> simp [needsObjectType]

theorem Condition.holdsIn_of_rowText {c : Condition} {g : Grid} {row : Nat} {objectType : String}
    (h : g.rowText? row Field.objectType = some objectType) :
    c.holdsIn g row = c.appliesTo objectType := by
  have hmem (types : NameSet) : types.contains objectType = decide (objectType ∈ types.names) := by
    rw [Bool.eq_iff_iff, Dictionary.contains_eq_true_iff, decide_eq_true_eq, Dictionary.mem_names_iff]
  cases c with
  | always => rfl
  | onlyFor types => simp [holdsIn, appliesTo, h, hmem]
  | exceptFor types => simp [holdsIn, appliesTo, h, hmem]

/-- A condition on the object type holds in rows only that have one. -/
theorem Condition.rowText_ne_none {c : Condition} {g : Grid} {row : Nat}
    (h : c.holdsIn g row = true) (hconditional : c ≠ .always) :
    g.rowText? row Field.objectType ≠ none := by
  intro hnone
  cases c with
  | always => exact hconditional rfl
  | onlyFor types => simp [holdsIn, hnone] at h
  | exceptFor types => simp [holdsIn, hnone] at h

theorem FieldTable.mem_headerOnlyFields_iff {table : FieldTable} {field : String} :
    field ∈ table.headerOnlyFields ↔
      ∃ rule, table.get? field = some rule ∧ rule.dataRequired = false := by
  simp only [headerOnlyFields, List.mem_map, List.mem_filter, Bool.not_eq_true',
    Dictionary.get?_eq_some_iff]
  constructor
  · rintro ⟨⟨field, rule⟩, ⟨hmem, hrule⟩, rfl⟩
    exact ⟨rule, hmem, hrule⟩
  · rintro ⟨rule, hmem, hrule⟩
    exact ⟨(field, rule), ⟨hmem, hrule⟩, rfl⟩

theorem FieldTable.ascending_headerOnlyFields (table : FieldTable) :
    table.headerOnlyFields.Pairwise (· < ·) :=
  List.pairwise_map.mpr (Entries.ascending_filter table.ascending)

/-- A list of which one element alone has something to it. -/
theorem flatMap_eq_of_alone {α β : Type} {f : α → List β} {xs : List α} {x : α} (hnodup : xs.Nodup)
    (hmem : x ∈ xs) (h : ∀ y ∈ xs, y ≠ x → f y = []) : xs.flatMap f = f x := by
  obtain ⟨before, after, rfl⟩ := List.append_of_mem hmem
  have hout : x ∉ before ++ after := (List.nodup_middle.mp hnodup).notMem
  have hnil {ys : List α} (hsub : ys ⊆ before ++ after) : ys.flatMap f = [] := by
    refine List.flatMap_eq_nil_iff.mpr fun y hy => h y ?_ ?_
    · rw [List.mem_append, List.mem_cons]
      rcases List.mem_append.mp (hsub hy) with hbefore | hafter
      · exact Or.inl hbefore
      · exact Or.inr (Or.inr hafter)
    · rintro rfl
      exact hout (hsub hy)
  rw [List.flatMap_append, List.flatMap_cons, hnil (List.subset_append_left _ _),
    hnil (List.subset_append_right _ _), List.nil_append, List.append_nil]

theorem Location.ne_origin_of_row {l : Location} (h : l.row ≠ 0) : l ≠ .origin :=
  fun heq => h (congrArg row heq)

namespace Grid

variable {g : Grid} {l : Location}

theorem locations_eq_append (g : Grid) :
    g.locations = rowLocations 0 g.headers ++ dataLocations g.rows.tail := by
  obtain ⟨rows⟩ := g
  cases rows with
  | nil => rfl
  | cons header rows => exact locations_cons header rows

theorem exists_of_mem_headerLocations (h : l ∈ rowLocations 0 g.headers) :
    ∃ value, g.get? l = some value := by
  rw [← mem_locations_iff, locations_eq_append, List.mem_append]
  exact Or.inl h

theorem mem_dataLocations_iff :
    l ∈ dataLocations g.rows.tail ↔ l.row ≠ 0 ∧ ∃ value, g.get? l = some value := by
  rw [← mem_locations_iff, locations_eq_append, List.mem_append]
  constructor
  · intro h
    obtain ⟨i, -, hrow, -⟩ := row_of_mem_dataLocations h
    exact ⟨by omega, Or.inr h⟩
  · rintro ⟨hrow, hheader | hdata⟩
    · exact absurd (mem_rowLocations_iff.mp hheader).1 hrow
    · exact hdata

theorem pairwise_dataLocations (g : Grid) :
    (dataLocations g.rows.tail).Pairwise Location.Before := by
  have hall := g.pairwise_locations
  rw [locations_eq_append] at hall
  exact (List.pairwise_append.mp hall).2.1

/-- Of the header row, the first cell alone has something to it. -/
theorem flatMap_rowLocations {α : Type} {f : Location → List α} (headers : List String)
    (h : ∀ l ∈ rowLocations 0 headers, l ≠ .origin → f l = []) :
    (rowLocations 0 headers).flatMap f = if headers = [] then [] else f .origin := by
  split
  · rename_i hnil
    subst hnil
    rfl
  · rename_i hne
    have hnodup : (rowLocations 0 headers).Nodup :=
      List.nodup_range.map fun _ _ heq => congrArg Location.col heq
    have hfirst : .origin ∈ rowLocations 0 headers :=
      mem_rowLocations_iff.mpr ⟨rfl, List.length_pos_iff.mpr hne⟩
    exact flatMap_eq_of_alone hnodup hfirst h

end Grid

namespace RequiredField

variable {table : FieldTable} {rules : Rulebook} {ctx : Context} {profile : String} {g : Grid}
  {l : Location} {value : String}

/-- What a table says of a data cell. -/
def verdict? (table : FieldTable) (profile : String) (g : Grid) (l : Location) : Option Violation :=
  match g.headers[l.col]? with
  | none => some ((Violation.ofProblem (.headerUnavailable s!"[index: {l.col}]") l profile).causedBy
      (g.noHeader l profile))
  | some name =>
    match table.get? name with
    | none => none
    | some rule =>
      if rule.dataRequired = false then none
      else if rule.condition ≠ .always ∧ g.rowText? l.row Field.objectType = none then
        some ((Violation.ofProblem (.headerUnavailable name) l profile).causedBy
          (g.noRowText l profile Field.objectType))
      else if rule.condition.holdsIn g l.row ∧ (g.get? l).any Text.isBlank then
        some (.ofProblem (.dataMissing name) l profile)
      else none

theorem violations_filled (hget : g.get? l = some value) (name : String) :
    (filled name profile l g).violations =
      if Text.isBlank value then [.ofProblem (.dataMissing name) l profile] else [] := by
  rw [filled, hget]
  rfl

theorem violations_data (hget : g.get? l = some value) (name : String) (condition : Condition) :
    (data name condition profile l g).violations =
      if condition ≠ .always ∧ g.rowText? l.row Field.objectType = none then
        [(Violation.ofProblem (.headerUnavailable name) l profile).causedBy
          (g.noRowText l profile Field.objectType)]
      else if condition.holdsIn g l.row ∧ Text.isBlank value then
        [.ofProblem (.dataMissing name) l profile]
      else [] := by
  rw [data]
  by_cases hcondition : condition = .always
  · subst hcondition
    simp [Condition.needsObjectType, Condition.holdsIn, violations_filled hget]
  · rw [if_pos (Condition.needsObjectType_iff.mpr hcondition)]
    cases htype : g.rowText? l.row Field.objectType with
    | none =>
      rw [Grid.rowValue_eq_error hget htype]
      simp [hcondition, Outcome.violation]
    | some objectType =>
      rw [Grid.rowValue_eq_ok hget htype, Condition.holdsIn_of_rowText htype]
      cases happlies : condition.appliesTo objectType <;>
        simp [happlies, violations_filled hget, Outcome.clean]

/-- A data cell is judged as the table says. -/
theorem violations_dataCell (hget : g.get? l = some value) :
    (dataCell table profile l g).violations = (verdict? table profile g l).toList := by
  rw [dataCell, verdict?]
  cases hname : g.headers[l.col]? with
  | none =>
    rw [Grid.header_eq_error hget hname]
    rfl
  | some name =>
    rw [Grid.header_eq_ok hget hname]
    cases hrule : table.get? name with
    | none => simp [hrule, Outcome.clean]
    | some rule =>
      simp only [hrule, hget, Option.any_some]
      cases hrequired : rule.dataRequired with
      | false => simp [Outcome.clean]
      | true =>
        simp only [Bool.true_eq_false, if_false, if_true, violations_data hget]
        split
        · rfl
        · split <;> rfl

/-! ## A whole scan -/

/-- The header row is judged at its first cell, and each data cell by itself. -/
theorem scan_eq_append (ctx : Context) (profile : String) (g : Grid) :
    (Kind.requiredField.scan ctx profile g).violations =
      (if g.headers = [] then [] else Kind.requiredField.reported ctx profile g .origin) ++
        (Grid.dataLocations g.rows.tail).flatMap (Kind.requiredField.reported ctx profile g) := by
  rw [Kind.scan_of_memoryless (by decide), Grid.locations_eq_append, List.flatMap_append]
  refine congrArg (· ++ _) (Grid.flatMap_rowLocations g.headers fun l hl hne => ?_)
  have hcell : g.check l profile = .ok () :=
    Grid.check_eq_ok_iff.mpr (Grid.exists_of_mem_headerLocations hl)
  have hclean : check ctx.rules profile l g = .clean :=
    check_of_header _ hcell (Grid.mem_rowLocations_iff.mp hl).1 hne
  exact congrArg Outcome.violations hclean

theorem check_origin (h : g.headers ≠ []) : g.check .origin profile = .ok () := by
  refine Grid.check_eq_ok_iff.mpr (Grid.exists_of_mem_headerLocations ?_)
  exact Grid.mem_rowLocations_iff.mpr ⟨rfl, List.length_pos_iff.mpr h⟩

theorem reported_origin (htable : ctx.rules.table? profile = some table) (h : g.headers ≠ []) :
    Kind.requiredField.reported ctx profile g .origin =
      (table.headerOnlyFields.filter fun field => !g.headers.contains field).map
        fun field => .ofProblem (.fieldMissing field) .origin profile := by
  rw [Kind.reported, Kind.offer, check, check_origin h, htable]
  rfl

theorem reported_dataCell (htable : ctx.rules.table? profile = some table) (hrow : l.row ≠ 0)
    (hget : g.get? l = some value) :
    Kind.requiredField.reported ctx profile g l = (verdict? table profile g l).toList := by
  have horigin := Location.ne_origin_of_row hrow
  have hdata : ¬ l.isHeader = true := mt Location.isHeader_eq_true.mp hrow
  rw [Kind.reported, Kind.offer, check, Grid.check_of_get?_eq_some hget, htable]
  simp only [horigin, hdata, if_false]
  exact violations_dataCell hget

/-- A profile without a table is reported at the first cell of the header row. -/
theorem scan_of_no_table (htable : ctx.rules.table? profile = none) (g : Grid) :
    (Kind.requiredField.scan ctx profile g).violations =
      if g.headers = [] then [] else [.ofProblem (.profileUnknown profile) .origin profile] := by
  have hdata : (Grid.dataLocations g.rows.tail).flatMap
      (Kind.requiredField.reported ctx profile g) = [] := by
    refine List.flatMap_eq_nil_iff.mpr fun l hl => ?_
    obtain ⟨hrow, hcell⟩ := Grid.mem_dataLocations_iff.mp hl
    have horigin := Location.ne_origin_of_row hrow
    rw [Kind.reported, Kind.offer, check, Grid.check_eq_ok_iff.mpr hcell, htable]
    simp only [horigin, if_false, Outcome.clean]
  rw [scan_eq_append, hdata, List.append_nil]
  split
  · rfl
  · rename_i hheaders
    rw [Kind.reported, Kind.offer, check, check_origin hheaders, htable]
    rfl

theorem scan_of_table (htable : ctx.rules.table? profile = some table) (g : Grid) :
    (Kind.requiredField.scan ctx profile g).violations =
      (if g.headers = [] then []
        else (table.headerOnlyFields.filter fun field => !g.headers.contains field).map
          fun field => .ofProblem (.fieldMissing field) .origin profile) ++
        (Grid.dataLocations g.rows.tail).filterMap (verdict? table profile g) := by
  have hdata : ∀ l ∈ Grid.dataLocations g.rows.tail,
      Kind.requiredField.reported ctx profile g l = (verdict? table profile g l).toList := by
    intro l hl
    obtain ⟨hrow, value, hget⟩ := Grid.mem_dataLocations_iff.mp hl
    exact reported_dataCell htable hrow hget
  rw [scan_eq_append, List.flatMap_congr hdata, List.filterMap_eq_flatMap_toList]
  split
  · rfl
  · rename_i hheaders
    rw [reported_origin htable hheaders]

/-- **Required fields over a whole scan.**  A profile without a table is reported once, at the first
cell of the header row.  A table reports there the fields that the row lacks, in ascending order, then
for each data cell, row by row, what it says of it, and nothing else. -/
theorem scan_by_table (ctx : Context) (profile : String) (g : Grid) :
    ∃ cells : List Location, cells.Pairwise Location.Before ∧
      (∀ l, l ∈ cells ↔ l.row ≠ 0 ∧ ∃ value, g.get? l = some value) ∧
      (ctx.rules.table? profile = none →
        (Kind.requiredField.scan ctx profile g).violations =
          if g.headers = [] then [] else [.ofProblem (.profileUnknown profile) .origin profile]) ∧
      (∀ table, ctx.rules.table? profile = some table → ∃ absent : List String,
        absent.Pairwise (· < ·) ∧
        (∀ field, field ∈ absent ↔ field ∉ g.headers ∧
          ∃ rule, table.get? field = some rule ∧ rule.dataRequired = false) ∧
        (Kind.requiredField.scan ctx profile g).violations =
          (if g.headers = [] then []
            else absent.map fun field => .ofProblem (.fieldMissing field) .origin profile) ++
            cells.filterMap (verdict? table profile g)) := by
  refine ⟨Grid.dataLocations g.rows.tail, g.pairwise_dataLocations,
    fun l => Grid.mem_dataLocations_iff, fun htable => scan_of_no_table htable g, ?_⟩
  intro table htable
  refine ⟨_, table.ascending_headerOnlyFields.filter _, fun field => ?_, scan_of_table htable g⟩
  simp [FieldTable.mem_headerOnlyFields_iff, and_comm]

/-! ## Grids of which nothing is reported -/

/-- The table has nothing to say of any data cell. -/
theorem verdict?_of_clean (htable : ctx.rules.table? profile = some table)
    (hclean : (Kind.requiredField.scan ctx profile g).violations = []) (hrow : l.row ≠ 0)
    (hget : g.get? l = some value) : verdict? table profile g l = none := by
  rw [scan_of_table htable, List.append_eq_nil_iff, List.filterMap_eq_nil_iff] at hclean
  exact hclean.2 l (Grid.mem_dataLocations_iff.mpr ⟨hrow, value, hget⟩)

/-- Where a rule holds, the object type is known if it matters, and so the cell itself is judged. -/
theorem verdict?_of_holds {field : String} {rule : FieldRule} (hname : g.headers[l.col]? = some field)
    (hrule : table.get? field = some rule) (hrequired : rule.dataRequired = true)
    (hholds : rule.condition.holdsIn g l.row = true) (hget : g.get? l = some value) :
    verdict? table profile g l =
      if Text.isBlank value then some (.ofProblem (.dataMissing field) l profile) else none := by
  have hknown : ¬ (rule.condition ≠ .always ∧ g.rowText? l.row Field.objectType = none) :=
    fun ⟨hconditional, hnone⟩ => Condition.rowText_ne_none hholds hconditional hnone
  simp only [verdict?, hname, hrule, hrequired, Bool.true_eq_false, if_false, hknown, hholds, hget,
    Option.any_some, true_and]

/-- **What a scan that reports nothing vouches for.**  In a row in which a field must be filled in, it is
filled in exactly if the row gets as far as the first column of the field. -/
theorem filled_iff_reached (htable : ctx.rules.table? profile = some table)
    (hclean : (Kind.requiredField.scan ctx profile g).violations = []) {row col : Nat}
    {cells : List String} (hrow : row ≠ 0) (hcells : g.rows[row]? = some cells) {field : String}
    {rule : FieldRule} (hcol : g.headers.idxOf? field = some col)
    (hrule : table.get? field = some rule) (hrequired : rule.dataRequired = true)
    (hholds : rule.condition.holdsIn g row = true) :
    (∃ text, g.rowText? row field = some text ∧ Text.isBlank text = false) ↔ col < cells.length := by
  have hrowText : g.rowText? row field = cells[col]? := by
    rw [Grid.rowText?, hcol]
    show g.get? ⟨row, col⟩ = cells[col]?
    rw [Grid.get?, hcells]
    rfl
  rw [hrowText]
  constructor
  · rintro ⟨text, htext, -⟩
    exact (List.getElem?_eq_some_iff.mp htext).1
  · intro hlt
    have hget : g.get? ⟨row, col⟩ = some cells[col] :=
      Grid.get?_eq_some_iff.mpr ⟨cells, hcells, List.getElem?_eq_getElem hlt⟩
    have hname : g.headers[col]? = some field := by
      obtain ⟨hbound, heq, -⟩ := List.idxOf?_eq_some_iff.mp hcol
      rw [List.getElem?_eq_getElem hbound, heq]
    have hverdict := verdict?_of_clean htable hclean hrow hget
    rw [verdict?_of_holds hname hrule hrequired hholds hget] at hverdict
    refine ⟨cells[col], List.getElem?_eq_getElem hlt, ?_⟩
    by_contra hblank
    rw [if_pos (Bool.of_not_eq_false hblank)] at hverdict
    cases hverdict

/-- Collections need a summary, works do not; the row of the work is short. -/
theorem filled_iff_reached_summary :
    let table : FieldTable := .ofFields [("Summary", .requiredFor ["Collection"])]
    let ctx : Context := { store := .empty none .epoch, rules := ({} : Rulebook).withTable "p" table }
    let g : Grid := ⟨[["Object Type", "Summary"], ["Collection", "About it"], ["Work"]]⟩
    ctx.rules.table? "p" = some table ∧ (Kind.requiredField.scan ctx "p" g).violations = [] ∧
    g.rows[1]? = some ["Collection", "About it"] ∧ g.headers.idxOf? "Summary" = some 1 ∧
    table.get? "Summary" = some (.requiredFor ["Collection"]) ∧
    (FieldRule.requiredFor ["Collection"]).condition.holdsIn g 1 = true ∧
    ((∃ text, g.rowText? 1 "Summary" = some text ∧ Text.isBlank text = false) ↔ 1 < 2) := by
  intro table ctx g
  have htable : ctx.rules.table? "p" = some table := by decide
  have hclean : (Kind.requiredField.scan ctx "p" g).violations = [] := by decide
  have hcells : g.rows[1]? = some ["Collection", "About it"] := rfl
  have hcol : g.headers.idxOf? "Summary" = some 1 := by decide
  have hrule : table.get? "Summary" = some (.requiredFor ["Collection"]) := by decide
  have hholds : (FieldRule.requiredFor ["Collection"]).condition.holdsIn g 1 = true := by decide
  exact ⟨htable, hclean, hcells, hcol, hrule, hholds,
    filled_iff_reached htable hclean (by decide) hcells hcol hrule rfl hholds⟩

/-- A row that ends before the column of a field is passed without the field. -/
theorem not_filled_of_clean :
    ¬ ∀ (ctx : Context) (profile : String) (table : FieldTable) (g : Grid),
      ctx.rules.table? profile = some table → g.headers ≠ [] →
        (Kind.requiredField.scan ctx profile g).violations = [] →
          ∀ (row : Nat) (cells : List String) (field : String) (rule : FieldRule), row ≠ 0 →
            g.rows[row]? = some cells → field ∈ g.headers → table.get? field = some rule →
              rule.dataRequired = true → rule.condition.holdsIn g row = true →
                ∃ text, g.rowText? row field = some text ∧ Text.isBlank text = false := by
  intro hall
  let table : FieldTable := .ofFields [("Item ARK", .required), ("Visibility", .required)]
  obtain ⟨text, htext, -⟩ := hall { store := .empty none .epoch, rules := .builtin } "test" table
    ⟨[["Item ARK", "Visibility"], ["ark:/21198/a"]]⟩ (by decide) (by decide) (by decide) 1
    ["ark:/21198/a"] "Visibility" .required (by decide) rfl (by decide) (by decide) rfl rfl
  have hnone : (⟨[["Item ARK", "Visibility"], ["ark:/21198/a"]]⟩ : Grid).rowText? 1 "Visibility" =
      none := by decide
  rw [hnone] at htext
  cases htext

end RequiredField
end MetadataAudit
