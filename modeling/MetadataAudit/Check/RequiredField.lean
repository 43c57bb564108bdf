import MetadataAudit.Check.Basic

/-! # Required fields

The table of a profile says which fields must be in the header row, which is judged at the first
header cell, and which must be filled in, which is judged at every data cell by the object type of
its row.
-/
namespace MetadataAudit
namespace RequiredField

/-- Looks for the fields that must be in the header row. -/
def headerFields (table : FieldTable) (profile : String) (l : Location) (g : Grid) : Outcome :=
  let missing := table.headerOnlyFields.filter fun field => !g.headers.contains field
  { violations := missing.map fun field => .ofProblem (.fieldMissing field) l profile
    events := table.headerOnlyFields.map fun field =>
      ⟨.debug, .fields, "Required header",
        [("field", .quoted field), ("found", .flag (g.headers.contains field))]⟩ }

/-- Judges whether a cell that must hold data does. -/
def filled (name : String) (profile : String) (l : Location) (g : Grid) : Outcome :=
  let blank := Text.isBlank ((g.get? l).getD "")
  { violations := if blank then [.ofProblem (.dataMissing name) l profile] else []
    events := [⟨.debug, .fields, "Required field data",
      [("header", .quoted name), ("row", .number l.row), ("blank", .flag blank)]⟩] }

/-- Judges a data cell whose field must be filled in under a condition. -/
def data (name : String) (condition : Condition) (profile : String) (l : Location) (g : Grid) :
    Outcome :=
  if condition.needsObjectType then
    match g.rowValue l profile Field.objectType with
    | .ok objectType =>
      if condition.appliesTo objectType then filled name profile l g else .clean
    | .error v =>
      .violation ((Violation.ofProblem (.headerUnavailable name) l profile).causedBy v)
  else filled name profile l g

/-- Judges a data cell by the table. -/
def dataCell (table : FieldTable) (profile : String) (l : Location) (g : Grid) : Outcome :=
  match g.header l profile with
  | .error v =>
    let header := s!"[index: {l.col}]"
    .violation ((Violation.ofProblem (.headerUnavailable header) l profile).causedBy v)
  | .ok name =>
    match table.get? name with
    | some rule => if rule.dataRequired then data name rule.condition profile l g else .clean
    | none => .clean

/-- Applies the table of a profile; a profile without one is reported once for the whole grid. -/
def check (rules : Rulebook) (profile : String) (l : Location) (g : Grid) : Outcome :=
  match g.check l profile with
  | .error v => .violation v
  | .ok () =>
    match rules.table? profile with
    | none =>
      if l = .origin then .reject (.profileUnknown profile) l profile else .clean
    | some table =>
      if l = .origin then headerFields table profile l g
      else if l.isHeader then .clean
      else dataCell table profile l g

end RequiredField
end MetadataAudit
