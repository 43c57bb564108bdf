import MetadataAudit.Audit
import MetadataAudit.Log.Entry
import MetadataAudit.Report.Basic
import MetadataAudit.Rulebook.Document
import MetadataAudit.Store.Opening

/-! # The journal

What the log is told of the work of a command, in order.  An audit by a single check tells of it
within the audit's own span; several checks run beside each other, outside of any span.
-/
namespace MetadataAudit
namespace Journal

open Log

/-- Events in the given spans. -/
def within (spans : List Span) (events : List Event) : List Entry :=
  events.map fun e => ⟨spans, e⟩

/-- A rule book was read. -/
def rulebookLoaded (path : Path) (r : Rulebook) : Event :=
  ⟨.info, .rulebook, s!"Loaded rule book from {path}", [("profiles", .number r.tables.size)]⟩

/-- A store was opened. -/
def storeOpened (t : FileTree) (s : Store) : List Event :=
  match s.path with
  | none => []
  | some path =>
    if Store.isKept t path then [
      ⟨.info, .loading, s!"Loaded profiles from {path}", [("profiles", .number s.count)]⟩,
      ⟨.debug, .store, "Profile store refreshed", [("profiles", .number s.count)]⟩,
      ⟨.info, .opening, "Loaded profiles", [("path", .plain path), ("profiles", .number s.count)]⟩]
    else [⟨.info, .opening, "Profiles file not found; using built-in profiles",
      [("path", .plain path)]⟩]

/-- A store was saved. -/
def storeSaved (path : Path) (s : Store) : Event :=
  ⟨.info, .saving, s!"Saved profiles to {path}", [("profiles", .number s.count)]⟩

/-- License pages will not be opened. -/
def offline : Event := ⟨.info, .command, "Offline: license URLs will not be checked", []⟩

/-- A spreadsheet was read. -/
def sheetRead (path : Path) (g : Grid) : Event :=
  ⟨.debug, .reading, "Read spreadsheet", [("path", .plain path), ("rows", .number g.rows.length),
    ("columns", .number g.headers.length)]⟩

/-- The span of a command that validates a spreadsheet. -/
def commandSpan (sheet : Path) (profile : String) : Span :=
  ⟨.command, "validate", [("csv", .plain sheet), ("profile", .plain profile)]⟩

/-- The span of an audit. -/
def auditSpan (profile : String) (g : Grid) : Span :=
  ⟨.engine, "validate", [("profile", .quoted profile), ("rows", .number g.rows.length)]⟩

/-- What a check told, and that it has finished. -/
def checkRun (run : Kind × Outcome) : List Event :=
  run.2.events ++ [⟨.debug, .engine, "Validator finished",
    [("validator", .quoted run.1.name), ("violations", .number run.2.violations.length)]⟩]

/-- An audit was run in the given spans. -/
def auditRun (spans : List Span) (profile : String) (g : Grid) (a : Audit) : List Entry :=
  let inner := spans ++ [auditSpan profile g]
  let runs := a.runs.flatMap checkRun
  within (if a.runs.length = 1 then inner else []) runs ++
    within inner [⟨.info, .engine, "Validation finished",
      [("validators", .number a.runs.length), ("violations", .number a.violations.length)]⟩]

/-- A violation whose field has no name. -/
def headerMissing (g : Grid) (v : Violation) : List Event :=
  match g.header v.location v.profile with
  | .ok _ => []
  | .error e => [⟨.error, .report, "Could not resolve header for report warning",
      [("location", .plain v.location.text), ("error", .plain e.text)]⟩]

/-- A warning of a report; the text of the cell is shown only if `data` is set. -/
def warning (data : Bool) (w : Warning) : Event :=
  ⟨.trace, .command, "Warning", [("row", .number w.row), ("column", .number w.column),
    ("header", .plain w.header), ("value", .quoted (redact data w.value)),
    ("message", .remark w.message)]⟩

/-- A report was made. -/
def reportMade (data : Bool) (g : Grid) (vs : Violations) (r : Report) : List Event :=
  vs.flatMap (headerMissing g) ++ r.warnings.map (warning data)

end Journal
end MetadataAudit
