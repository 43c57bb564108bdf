import MetadataAudit.FileTree.Basic
import MetadataAudit.Json.Decoder
import MetadataAudit.Rulebook.Basic

/-! # Rule book documents

A rule book is read from a document in which each field may list object types to require and object
types to exempt, but not both.  Whatever the document leaves out is empty.
-/
namespace MetadataAudit

/-- Why a rule book could not be read. -/
inductive RulebookError where
  | file (path : Path) (cause : OsError)
  /-- The text is no rule book. -/
  | undecodable (origin : String)
  /-- A field lists both kinds of object types. -/
  | conflicting (profile field : String)
deriving DecidableEq

namespace RulebookError

/-- What went wrong, in words. -/
def message : RulebookError → String
  | .file path _ => s!"Failed to read rule book {path}"
  | .undecodable origin => s!"Failed to parse rule book {origin}"
  | .conflicting profile field =>
    s!"supplied profile has objTypes and notObjTypes set: {profile} (field `{field}`)"

/-- The failure of the system behind the error, in words. -/
def cause? : RulebookError → Option String
  | .file _ cause => some cause.text
  | _ => none

end RulebookError

/-- What a document says of a field. -/
structure FieldRuleDocument where
  dataRequired : Bool
  objectTypes : NameSet
  notObjectTypes : NameSet
deriving DecidableEq

/-- What a document says of all profiles. -/
structure RulebookDocument where
  requiredFields : Dictionary (Dictionary FieldRuleDocument)
  naans : Dictionary NameSet
  mediaProfiles : NameSet
  licenseExemptProfiles : NameSet
deriving DecidableEq

namespace FieldRuleDocument

/-- Decodes what is said of a field. -/
def decode? (v : Parsed) : Option FieldRuleDocument := do
  let fields ← v.fields? ["dataRequired", "objectTypes", "notObjectTypes"]
  let dataRequired ← Parsed.required fields "dataRequired" Parsed.bool?
  let objectTypes ← Parsed.optional fields "objectTypes" Parsed.nameSet? .empty
  let notObjectTypes ← Parsed.optional fields "notObjectTypes" Parsed.nameSet? .empty
  return { dataRequired, objectTypes, notObjectTypes }

/-- The condition of a field; `none` when it lists both kinds of object types. -/
def condition? (d : FieldRuleDocument) : Option Condition :=
  if d.objectTypes.size = 0 then
    if d.notObjectTypes.size = 0 then some .always else some (.exceptFor d.notObjectTypes)
  else
    if d.notObjectTypes.size = 0 then some (.onlyFor d.objectTypes) else none

end FieldRuleDocument

namespace RulebookDocument

/-- Decodes what is said of all profiles. -/
def decode? (v : Parsed) : Option RulebookDocument := do
  let fields ← v.fields? ["requiredFields", "naans", "mediaProfiles", "licenseExemptProfiles"]
  let requiredFields ← Parsed.optional fields "requiredFields"
    (Parsed.dictionary? (Parsed.dictionary? FieldRuleDocument.decode?)) .empty
  let naans ← Parsed.optional fields "naans" (Parsed.dictionary? Parsed.nameSet?) .empty
  let mediaProfiles ← Parsed.optional fields "mediaProfiles" Parsed.nameSet? .empty
  let licenseExemptProfiles ←
    Parsed.optional fields "licenseExemptProfiles" Parsed.nameSet? .empty
  return { requiredFields, naans, mediaProfiles, licenseExemptProfiles }

end RulebookDocument

/-- The rule of a field, unless it lists both kinds of object types. -/
def FieldRule.ofDocument (profile field : String) (d : FieldRuleDocument) :
    Except RulebookError FieldRule :=
  match d.condition? with
  | some condition => .ok { dataRequired := d.dataRequired, condition }
  | none => .error (.conflicting profile field)

/-- The rules of one profile. -/
def FieldTable.ofDocument (profile : String) (fields : Dictionary FieldRuleDocument) :
    Except RulebookError FieldTable :=
  fields.mapM (FieldRule.ofDocument profile)

namespace Rulebook

/-- The rule book that a document describes. -/
def ofDocument (d : RulebookDocument) : Except RulebookError Rulebook := do
  let tables ← d.requiredFields.mapM FieldTable.ofDocument
  return {
    tables
    naans := d.naans
    mediaProfiles := d.mediaProfiles
    exemptProfiles := d.licenseExemptProfiles }

/-- Reads a rule book from a text; `origin` names the text in errors. -/
def ofText (text origin : String) : Except RulebookError Rulebook :=
  match Parsed.ofText? text >>= RulebookDocument.decode? with
  | some d => ofDocument d
  | none => .error (.undecodable origin)

/-- Reads a rule book from a file. -/
def load (t : FileTree) (path : Path) : Except RulebookError Rulebook := do
  let text ← (t.readText path).mapError (.file path)
  ofText text path

end Rulebook
end MetadataAudit
