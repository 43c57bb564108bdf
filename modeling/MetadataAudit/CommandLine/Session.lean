import MetadataAudit.Audit
import MetadataAudit.CommandLine.Invocation
import MetadataAudit.Csv.Sheet
import MetadataAudit.Journal

/-! # Sessions

A command works in a session: it takes the files, the network and the time as it finds them, and
leaves files, lines on the error output, and either a result or an error.  A line of the log is
written as soon as it is told, so that a command which reads the file of its own log finds what it
has told so far.
-/
namespace MetadataAudit

/-- Why a command failed. -/
inductive CommandError where
  | rules (cause : RulebookError)
  | opening (cause : OpenError)
  | sheet (cause : SheetError)
  | audit (cause : AuditError)
  | edit (cause : EditError)
  | profileMissing (name : String)
deriving DecidableEq

namespace CommandError

/-- What went wrong and why, outermost first. -/
def messages : CommandError → List String
  | rules cause => ["load rule book", cause.message] ++ cause.cause?.toList
  | opening cause => [cause.message, cause.cause.message] ++ cause.cause.cause?.toList
  | sheet cause => [cause.message]
  | audit cause => [cause.userMessage]
  | edit cause => cause.messages
  | profileMissing name => [s!"profile '{name}' not found"]

/-- What a person may do about it. -/
def suggestion? : CommandError → Option String
  | opening cause => cause.cause.suggestion?
  | edit cause => cause.suggestion?
  | _ => none

/-- The lines that are printed for an error. -/
def lines (e : CommandError) : List String :=
  ("error: " ++ ": ".intercalate e.messages) ::
    (e.suggestion?.map fun s => "hint: " ++ s).toList

end CommandError

/-- What a command finds. -/
structure Surroundings where
  tree : FileTree
  network : Fetch
  now : Timestamp

/-- Where the lines of the log go. -/
inductive Sink where
  /-- To the error output. -/
  | errors
  /-- To the end of the file under a list of names. -/
  | file (names : List String)
  /-- To a file that has lost its place to another one, so that nobody reads them. -/
  | lost
deriving DecidableEq

/-- The state of a session. -/
structure Session extends Surroundings where
  style : Log.Style
  sink : Sink := .errors
  /-- The lines on the error output. -/
  errors : List String := []

namespace Session

/-- Opens the log, whose file is made if there is none. -/
def start (logging : Logging) (s : Surroundings) : Except OsError Session :=
  match logging.file with
  | none => .ok { s with style := logging.style }
  | some path => do
    let tree ← s.tree.append path []
    return { s with tree, style := logging.style, sink := .file (← tree.resolve path) }

/-- Writes lines of the log. -/
def write (s : Session) (lines : List String) : Session :=
  match s.sink with
  | .errors => { s with errors := s.errors ++ lines }
  | .file names =>
    { s with tree := s.tree.extend names (Utf8.encode (String.join (lines.map (· ++ "\n")))) }
  | .lost => s

/-- The session in which a file was put in the place of the one at a path. -/
def replaced (s : Session) (path : Path) (tree : FileTree) : Session :=
  { s with
    tree
    sink := if (tree.resolve path).toOption.map Sink.file = some s.sink then .lost else s.sink }

end Session

/-- Work in a session, which may fail. -/
abbrev Work (α : Type) := ExceptT CommandError (StateM Session) α

namespace Work

/-- Takes something from the session as it is, which may fail and changes nothing. -/
def attempt {α : Type} (f : Session → Except CommandError α) : Work α := fun s => (f s, s)

/-- Tells the log of events in some spans. -/
def tell (entries : List Log.Entry) : Work Unit :=
  modify fun s => s.write (Log.lines s.style entries)

/-- Saves a store to its file. -/
def save (store : Store) : Work Unit := fun s =>
  match store.save s.tree with
  | (.error cause, tree) => (.error (.edit (.notSaved cause)), { s with tree })
  | (.ok (), tree) =>
    (.ok (), match store.path with
      | some path => s.replaced path tree
      | none => { s with tree })

end Work
end MetadataAudit
