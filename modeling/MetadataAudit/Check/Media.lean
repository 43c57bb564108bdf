import MetadataAudit.Check.Basic

/-! # Media fields

Rows of audio and video items describe their media in four fields.  The columns of these fields are
looked for once, at the first such row, where missing ones are reported; each such row then needs a
value in every column that was found.
-/
namespace MetadataAudit
namespace Media

/-- The resource types of audio and video items. -/
def resourceTypes : List String := ["mov", "aud", "aum", "aun"]

/-- The fields that describe media. -/
def fields : List String := ["media.width", "media.height", "media.duration", "media.format"]

/-- The media fields that a header row holds, with the first column of each. -/
abbrev Columns := List (String × Nat)

/-- The media fields of a header row. -/
def columns (headers : List String) : Columns :=
  fields.filterMap fun field => (headers.idxOf? field).map fun col => (field, col)

/-- The media fields that were not found. -/
def missing (found : Columns) : List String :=
  fields.filter fun field => !(found.map Prod.fst).contains field

/-- The violations for the columns that were not found. -/
def missingColumns (found : Columns) (profile : String) (l : Location) : Violations :=
  if found.isEmpty then [.ofProblem .noMediaFields l profile]
  else (missing found).map fun field => .ofProblem (.mediaColumnMissing field) l profile

/-- The violation for a media field without a value in the row of a location. -/
def emptyField (profile : String) (l : Location) (g : Grid) (column : String × Nat) :
    Option Violation :=
  let empty := Violation.ofProblem (.mediaFieldEmpty column.1) l profile
  match g.cell (l.withCol column.2) profile with
  | .ok value => if Text.isBlank value then some empty else none
  | .error v => some (empty.causedBy v)

/-- Audio and video rows describe their media, if the profile asks for it. -/
def check (rules : Rulebook) (known : Option Columns) (profile : String) (l : Location)
    (g : Grid) : Outcome × Option Columns :=
  match g.dataCell l profile [Field.resourceType] with
  | .error v => (.violation v, known)
  | .ok none => (.clean, known)
  | .ok (some value) =>
    if rules.checksMedia profile && resourceTypes.contains (Text.trim value) then
      match known with
      | some found => ({ violations := found.filterMap (emptyField profile l g) }, known)
      | none =>
        let found := columns g.headers
        ({ violations :=
            missingColumns found profile l ++ found.filterMap (emptyField profile l g) },
          some found)
    else (.clean, known)

end Media
end MetadataAudit
