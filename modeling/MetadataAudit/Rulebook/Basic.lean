import MetadataAudit.Dictionary

/-! # Rule books

A rule book holds what differs from profile to profile: which fields a spreadsheet must have and
fill in, which name-assigning authorities its identifiers may come from, whether audio and video
rows must describe their media, and whether licenses are left unchecked.
-/
namespace MetadataAudit

/-- When a field must be filled in, judged by the object type of the row. -/
inductive Condition where
  | always
  | onlyFor (types : NameSet)
  | exceptFor (types : NameSet)
deriving DecidableEq

namespace Condition

/-- Whether a row of this object type must be filled in. -/
def appliesTo (c : Condition) (objectType : String) : Bool :=
  match c with
  | .always => true
  | .onlyFor types => types.contains objectType
  | .exceptFor types => !types.contains objectType

/-- Whether the object type has to be known at all. -/
def needsObjectType : Condition → Bool
  | .always => false
  | _ => true

/-- The object types that the condition names. -/
def types? : Condition → Option (List String)
  | .always => none
  | .onlyFor types | .exceptFor types => some types.names

end Condition

/-- What is asked of a field.  Where no data is required, the field only has to be in the header
row. -/
structure FieldRule where
  dataRequired : Bool
  condition : Condition
deriving DecidableEq

namespace FieldRule

/-- The field must be in the header row; its cells may be blank. -/
def headerOnly : FieldRule := ⟨false, .always⟩

/-- The field must be filled in everywhere. -/
def required : FieldRule := ⟨true, .always⟩

/-- The field must be filled in for these object types. -/
def requiredFor (types : List String) : FieldRule := ⟨true, .onlyFor (.ofNames types)⟩

/-- The field must be filled in for all but these object types. -/
def requiredExcept (types : List String) : FieldRule := ⟨true, .exceptFor (.ofNames types)⟩

end FieldRule

/-- The rules of one profile, by field. -/
abbrev FieldTable := Dictionary FieldRule

namespace FieldTable

/-- The fields that only have to be in the header row, ascending. -/
def headerOnlyFields (t : FieldTable) : List String :=
  (t.entries.filter fun e => !e.2.dataRequired).map Prod.fst

/-- The table of a list of fields; a later rule for a field replaces an earlier one. -/
def ofFields (fields : List (String × FieldRule)) : FieldTable := Dictionary.ofList fields

end FieldTable

/-- Everything that differs from profile to profile. -/
structure Rulebook where
  tables : Dictionary FieldTable := .empty
  naans : Dictionary NameSet := .empty
  mediaProfiles : NameSet := .empty
  exemptProfiles : NameSet := .empty
deriving DecidableEq

namespace Rulebook

/-- The table of a profile. -/
def table? (r : Rulebook) (profile : String) : Option FieldTable := r.tables.get? profile

/-- Whether a profile may use a name-assigning authority. -/
def naanAllowed (r : Rulebook) (profile naan : String) : Bool :=
  match r.naans.get? profile with
  | some allowed => allowed.contains naan
  | none => false

/-- Whether audio and video rows of a profile must describe their media. -/
def checksMedia (r : Rulebook) (profile : String) : Bool := r.mediaProfiles.contains profile

/-- Whether licenses of a profile are left unchecked. -/
def licenseExempt (r : Rulebook) (profile : String) : Bool := r.exemptProfiles.contains profile

/-- The profiles that have a table, ascending. -/
def profiles (r : Rulebook) : List String := r.tables.names

/-- The rule book with another table for a profile. -/
def withTable (r : Rulebook) (profile : String) (t : FieldTable) : Rulebook :=
  { r with tables := r.tables.insert profile t }

/-- The rule book with other authorities for a profile. -/
def withNaans (r : Rulebook) (profile : String) (naans : List String) : Rulebook :=
  { r with naans := r.naans.insert profile (.ofNames naans) }

/-- The rule book that demands media fields of a profile. -/
def withMediaProfile (r : Rulebook) (profile : String) : Rulebook :=
  { r with mediaProfiles := r.mediaProfiles.insert profile () }

/-- The rule book that leaves the licenses of a profile unchecked. -/
def withExemptProfile (r : Rulebook) (profile : String) : Rulebook :=
  { r with exemptProfiles := r.exemptProfiles.insert profile () }

/-- The fields of a full description of an item. -/
def fullTable : FieldTable :=
  .ofFields [
    ("Item ARK", .required),
    ("Parent ARK", .requiredExcept ["Collection"]),
    ("File Name", ⟨false, .exceptFor (.ofNames ["Collection"])⟩),
    ("Object Type", .required),
    ("Item Sequence", .requiredFor ["Page"]),
    ("Visibility", .required),
    ("Title", .required),
    ("Summary", .requiredFor ["Collection"])]

/-- The authorities that every profile may use. -/
def commonNaans : List String := ["21198", "13030"]

/-- The rule book that is used when no other is given. -/
def builtin : Rulebook :=
  ({} : Rulebook)
    |>.withTable "default" fullTable
    |>.withTable "fester" fullTable
    |>.withTable "test" (.ofFields [("Item ARK", .required), ("Visibility", .required)])
    |>.withTable "bucketeer" (.ofFields
        [("Item ARK", .required), ("File Name", .required), ("Visibility", .required)])
    |>.withNaans "default" commonNaans
    |>.withNaans "test" commonNaans
    |>.withNaans "bucketeer" commonNaans
    |>.withNaans "fester" commonNaans
    |>.withNaans "DLP Staff" commonNaans
    |>.withMediaProfile "fester"
    |>.withExemptProfile "bucketeer"

end Rulebook
end MetadataAudit
