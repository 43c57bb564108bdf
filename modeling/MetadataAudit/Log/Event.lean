/-! # Log events

What the program tells of its work: an event has a level, the part of the program it comes from,
a message and named values.  A span is a piece of work in which events happen; its level is `info`.
-/
namespace MetadataAudit
namespace Log

/-- How much an event matters, the most important first. -/
inductive Level where
  | error | warn | info | debug | trace
deriving DecidableEq

namespace Level

/-- How many levels are at least as important. -/
def rank : Level → Nat
  | error => 1
  | warn => 2
  | info => 3
  | debug => 4
  | trace => 5

/-- The name in configuration. -/
def name : Level → String
  | error => "error"
  | warn => "warn"
  | info => "info"
  | debug => "debug"
  | trace => "trace"

/-- The name at the head of a line. -/
def label : Level → String
  | error => "ERROR"
  | warn => "WARN"
  | info => "INFO"
  | debug => "DEBUG"
  | trace => "TRACE"

end Level

/-- The part of the program that an event comes from. -/
inductive Source where
  | command | reading | opening
  | store | loading | saving
  | report
  | engine | registry | rulebook | fields | licenses | fetching
deriving DecidableEq

namespace Source

/-- The name in configuration: a path that begins with the name of a package. -/
def name : Source → String
  | command => "dlp_cli::commands"
  | reading => "dlp_cli::read"
  | opening => "dlp_cli::store"
  | store => "dlp_profiles::store"
  | loading => "dlp_profiles::io::load"
  | saving => "dlp_profiles::io::save"
  | report => "dlp_report::report"
  | engine => "dlp_validate::engine"
  | registry => "dlp_validate::registry"
  | rulebook => "dlp_validate::rules::book"
  | fields => "dlp_validate::checks::required"
  | licenses => "dlp_validate::checks::license"
  | fetching => "dlp_validate::fetch"

/-- The packages of the program, in the order in which they are configured. -/
def packages : List String :=
  ["dlp_cli", "dlp_model", "dlp_profiles", "dlp_report", "dlp_validate"]

end Source

/-- A value in a log line. -/
inductive Value where
  /-- Shown in quotes, with escapes. -/
  | quoted (s : String)
  /-- Shown as it is. -/
  | plain (s : String)
  /-- Shown without its name, as a further message. -/
  | remark (s : String)
  | number (n : Nat)
  | flag (b : Bool)
deriving DecidableEq

/-- One thing that happened. -/
structure Event where
  level : Level
  source : Source
  message : String
  values : List (String × Value) := []
deriving DecidableEq

/-- A piece of work that takes some time. -/
structure Span where
  source : Source
  name : String
  values : List (String × Value) := []
deriving DecidableEq

end Log
end MetadataAudit
