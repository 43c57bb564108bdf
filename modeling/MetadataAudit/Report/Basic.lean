import MetadataAudit.Grid
import MetadataAudit.Text.Split
import MetadataAudit.Timestamp.Basic

/-! # Reports

A report shows violations to the person who handed in the spreadsheet: one warning each, with the
field name and the text of the cell.  Line breaks are written out, so that every entry stays on one
line.
-/
namespace MetadataAudit

/-- A violation as it is shown. -/
structure Warning where
  message : String
  header : String
  column : Nat
  row : Nat
  value : String
deriving DecidableEq

/-- The warnings of a run for one profile. -/
structure Report where
  profile : String
  time : Timestamp
  warnings : List Warning
deriving DecidableEq

namespace Warning

/-- The mark that stands for a line break in messages. -/
def breakMark : String := "<br/>"

/-- A text with a mark in place of every line break. -/
def markBreaks (mark s : String) : String :=
  String.ofList (s.toList.flatMap fun c => if c = '\n' then mark.toList else [c])

/-- A violation with the field name and the text of its cell, where the grid has them. -/
def ofViolation (g : Grid) (v : Violation) : Warning where
  message := markBreaks breakMark v.userMessage
  header := (g.header v.location v.profile).toOption.getD ""
  column := v.location.col
  row := v.location.row
  value := markBreaks "\\n" ((g.cell v.location v.profile).toOption.getD "")

/-- The message with its line breaks back in place. -/
def restoredMessage (w : Warning) : String := Text.replace w.message breakMark "\n"

end Warning

namespace Report

/-- The report on violations found in a grid. -/
def ofViolations (vs : Violations) (g : Grid) (time : Timestamp) : Report where
  profile := (vs.head?.map Violation.profile).getD ""
  time := time
  warnings := vs.map (Warning.ofViolation g)

/-- How many warnings there are. -/
def size (r : Report) : Nat := r.warnings.length

/-- One line on the outcome. -/
def summary (r : Report) : String :=
  match r.size with
  | 0 => "No problems found."
  | 1 => s!"1 problem found for profile '{r.profile}'."
  | n => s!"{n} problems found for profile '{r.profile}'."

end Report
end MetadataAudit
