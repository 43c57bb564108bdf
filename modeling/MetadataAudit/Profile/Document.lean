import MetadataAudit.Json.Decoder
import MetadataAudit.Json.Writer
import MetadataAudit.Profile.Basic
import MetadataAudit.Timestamp.Reader
import MetadataAudit.Timestamp.Writer

/-! # Profile documents

The form in which profiles are kept in files.  A time of last update that is left out is the
present one, and validations may be left out; a name may not.
-/
namespace MetadataAudit

/-- A timestamp in a document. -/
def Parsed.timestamp? (v : Parsed) : Option Timestamp :=
  v.text? >>= Timestamp.ofText?

/-- One profile as a document holds it. -/
structure ProfileDocument where
  name : String
  lastUpdate : Timestamp
  validations : List Validation
deriving DecidableEq

/-- A collection of profiles as a document holds it, each under a key. -/
structure StoreDocument where
  profiles : Dictionary ProfileDocument
  lastUpdate : Timestamp
deriving DecidableEq

namespace Validation

/-- Decodes a validation; its description may be left out. -/
def decode? (v : Parsed) : Option Validation := do
  let fields ← v.fields? ["name", "description"]
  let name ← Parsed.required fields "name" Parsed.text?
  let description ← Parsed.optional fields "description" Parsed.text? ""
  return { name, description }

/-- A validation to be written. -/
def toJson (v : Validation) : Json :=
  .record [("name", .text v.name), ("description", .text v.description)]

end Validation

namespace ProfileDocument

/-- Decodes a profile at the time `now`. -/
def decode? (now : Timestamp) (v : Parsed) : Option ProfileDocument := do
  let fields ← v.fields? ["name", "lastUpdate", "validations"]
  let name ← Parsed.required fields "name" Parsed.text?
  let lastUpdate ← Parsed.optional fields "lastUpdate" Parsed.timestamp? now
  let validations ← Parsed.optional fields "validations" (Parsed.list? Validation.decode?) []
  return { name, lastUpdate, validations }

/-- A profile to be written. -/
def toJson (d : ProfileDocument) : Json :=
  .record [("name", .text d.name), ("lastUpdate", .text d.lastUpdate.text),
    ("validations", .list (d.validations.map Validation.toJson))]

end ProfileDocument

namespace StoreDocument

/-- Decodes a collection at the time `now`. -/
def decode? (now : Timestamp) (v : Parsed) : Option StoreDocument := do
  let fields ← v.fields? ["profiles", "lastUpdate"]
  let profiles ← Parsed.optional fields "profiles"
    (Parsed.dictionary? (ProfileDocument.decode? now)) .empty
  let lastUpdate ← Parsed.optional fields "lastUpdate" Parsed.timestamp? now
  return { profiles, lastUpdate }

/-- A collection to be written. -/
def toJson (d : StoreDocument) : Json :=
  .record [("profiles", .record (d.profiles.entries.map fun e => (e.1, e.2.toJson))),
    ("lastUpdate", .text d.lastUpdate.text)]

/-- The text of the file. -/
def text (d : StoreDocument) : String := d.toJson.toPretty

end StoreDocument

namespace Profile

/-- The profile that a document describes. -/
def ofDocument (d : ProfileDocument) : Except ProfileError Profile :=
  create d.name d.validations d.lastUpdate

/-- The document that describes a profile. -/
def toDocument (p : Profile) : ProfileDocument :=
  ⟨p.name, p.lastUpdate, p.validations⟩

end Profile
end MetadataAudit
