import MetadataAudit.Json.Writer
import MetadataAudit.Log.Filter
import MetadataAudit.Log.Quoted

/-! # Log lines

An entry is an event with the spans of work it happened in, outermost first.  It becomes a line if
its event passes the filter, which also says which of the spans are shown.
-/
namespace MetadataAudit
namespace Log

/-- An event in its spans. -/
structure Entry where
  spans : List Span
  event : Event
deriving DecidableEq

/-- How lines are laid out. -/
inductive Layout where
  /-- The values of a span stand behind its name. -/
  | full
  /-- The values of all spans stand at the end of the line. -/
  | compact
  /-- Every entry is a JSON record. -/
  | record
deriving DecidableEq

/-- Where and how a log is written. -/
structure Style where
  filter : Filter
  layout : Layout := .full
deriving DecidableEq

namespace Value

/-- The text of a value. -/
def text : Value → String
  | .quoted s => Log.quoted s
  | .plain s => s
  | .remark s => harmless s
  | .number n => Nat.repr n
  | .flag b => if b then "true" else "false"

/-- A value with its name. -/
def named (name : String) (v : Value) : String :=
  match v with
  | .remark _ => v.text
  | _ => name ++ "=" ++ v.text

/-- A value in a JSON record. -/
def toJson : Value → Json
  | .quoted s | .plain s | .remark s => .text s
  | .number n => .natural n
  | .flag b => .text (if b then "true" else "false")

end Value

/-- Values with their names. -/
def valuesText (values : List (String × Value)) : String :=
  " ".intercalate (values.map fun v => v.2.named v.1)

namespace Event

/-- The message and the values. -/
def text (e : Event) : String :=
  " ".intercalate (harmless e.message :: e.values.map fun v => v.2.named v.1)

end Event

namespace Entry

/-- The level at the head of a line, five columns wide. -/
def head (e : Entry) : String :=
  let label := e.event.level.label
  "".pushn ' ' (5 - label.length) ++ label ++ " "

/-- A name with values behind it. -/
def spanText (s : Span) : String :=
  if s.values.isEmpty then s.name
  else s.name ++ "\x7b" ++ valuesText s.values ++ "\x7d"

/-- Names joined by colons, with a blank behind them unless there is none. -/
def path (names : List String) : String :=
  if names.isEmpty then "" else ":".intercalate names ++ ": "

/-- The line of an entry in the given layout. -/
def line (style : Style) (e : Entry) : String :=
  let spans := style.filter.shown e.spans
  match style.layout with
  | .full => e.head ++ path (spans.map spanText) ++ e.event.text
  | .compact =>
    " ".intercalate ((e.head ++ path (spans.map Span.name) ++ e.event.text) ::
      (spans.filter fun s => !s.values.isEmpty).map fun s => valuesText s.values)
  | .record =>
    (Json.record [("level", .text e.event.level.label), ("message", .text e.event.message),
      ("values", .record (e.event.values.map fun v => (v.1, v.2.toJson))),
      ("spans", .list (spans.map fun s => .text s.name))]).toCompact

end Entry

/-- The lines of the entries that pass the filter. -/
def lines (style : Style) (entries : List Entry) : List String :=
  (entries.filter fun e => style.filter.admits e.spans e.event).map
    (Entry.line style)

end Log
end MetadataAudit
