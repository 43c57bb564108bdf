import MetadataAudit.Profile.Document
import MetadataAudit.Report.Basic

/-! # Report documents

The form in which reports are written and read.  Nothing may be left out.
-/
namespace MetadataAudit

namespace Warning

/-- A warning to be written. -/
def toJson (w : Warning) : Json :=
  .record [("message", .text w.message), ("header", .text w.header),
    ("column", .natural w.column), ("row", .natural w.row), ("value", .text w.value)]

/-- Decodes a warning. -/
def decode? (v : Parsed) : Option Warning := do
  let fields ← v.fields? ["message", "header", "column", "row", "value"]
  let message ← Parsed.required fields "message" Parsed.text?
  let header ← Parsed.required fields "header" Parsed.text?
  let column ← Parsed.required fields "column" Parsed.natural?
  let row ← Parsed.required fields "row" Parsed.natural?
  let value ← Parsed.required fields "value" Parsed.text?
  return { message, header, column, row, value }

end Warning

namespace Report

/-- A report to be written. -/
def toJson (r : Report) : Json :=
  .record [("profile", .text r.profile), ("time", .text r.time.text),
    ("warnings", .list (r.warnings.map Warning.toJson))]

/-- The text of a report. -/
def text (r : Report) : String := r.toJson.toPretty

/-- Decodes a report. -/
def decode? (v : Parsed) : Option Report := do
  let fields ← v.fields? ["profile", "time", "warnings"]
  let profile ← Parsed.required fields "profile" Parsed.text?
  let time ← Parsed.required fields "time" Parsed.timestamp?
  let warnings ← Parsed.required fields "warnings" (Parsed.list? Warning.decode?)
  return { profile, time, warnings }

/-- Reads a report from a text. -/
def ofText? (s : String) : Option Report := Parsed.ofText? s >>= decode?

end Report

namespace Location

/-- A location to be written. -/
def toJson (l : Location) : Json :=
  .record [("row", .natural l.row), ("col", .natural l.col)]

/-- Decodes a location. -/
def decode? (v : Parsed) : Option Location := do
  let fields ← v.fields? ["row", "col"]
  let row ← Parsed.required fields "row" Parsed.natural?
  let col ← Parsed.required fields "col" Parsed.natural?
  return { row, col }

/-- Reads a location from a text. -/
def ofText? (s : String) : Option Location := Parsed.ofText? s >>= decode?

end Location
end MetadataAudit
