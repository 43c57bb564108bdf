import MetadataAudit.FileTree.Path
import MetadataAudit.Log.Quoted
import MetadataAudit.Text.Utf8

/-! # File trees

The files and directories below the root, and how a path is looked up in them.  A path is walked
name by name, from the root or from the directory that is the current one; each name needs a
directory to be looked up in, so the first name that fails decides the error.
-/
namespace MetadataAudit

/-- Why the system refused an operation on a path. -/
inductive OsError where
  | notFound
  | alreadyExists
  | notDirectory
  | isDirectory
  | nameTooLong
  | noSpace
  /-- The path holds a NUL character. -/
  | nulInPath
  /-- The content is no UTF-8. -/
  | notUtf8
  /-- A refusal that says which temporary file it is about. -/
  | atPath (cause : OsError) (path : Path)
deriving DecidableEq

namespace OsError

/-- The wording of the system. -/
def text : OsError → String
  | .notFound => "No such file or directory (os error 2)"
  | .alreadyExists => "File exists (os error 17)"
  | .notDirectory => "Not a directory (os error 20)"
  | .isDirectory => "Is a directory (os error 21)"
  | .nameTooLong => "File name too long (os error 36)"
  | .noSpace => "No space left on device (os error 28)"
  | .nulInPath => "file name contained an unexpected NUL byte"
  | .notUtf8 => "stream did not contain valid UTF-8"
  | .atPath cause path => s!"{cause.text} at path {Log.quoted path}"

end OsError

/-- A file with its content, or a directory. -/
inductive Node where
  | file (content : Bytes)
  | directory
deriving DecidableEq

/-- Files and directories, each under the list of names that leads to it from the root, and the
current directory. -/
structure FileTree where
  nodes : List (List String × Node) := []
  home : List String := []

namespace FileTree

/-- The tree that holds the current directory, those above it, and nothing else. -/
def workingIn (home : List String) : FileTree where
  nodes := (List.range home.length).map fun n => (home.take (n + 1), .directory)
  home := home

/-- The file or directory under a list of names. -/
def node? (t : FileTree) (names : List String) : Option Node :=
  if names.isEmpty then some .directory else t.nodes.lookup names

/-- The place that a name leads to from the place of other names. -/
def enter (t : FileTree) (names : List String) (name : String) : Except OsError (List String) :=
  if t.node? names ≠ some .directory then .error .notDirectory
  else if name = "" ∨ name = "." then .ok names
  else if name = ".." then .ok names.dropLast
  else if 255 < name.utf8ByteSize then .error .nameTooLong
  else if (t.node? (names ++ [name])).isSome then .ok (names ++ [name])
  else .error .notFound

/-- Follows the names of a path. -/
def walk (t : FileTree) (start : List String) : List String → Except OsError (List String)
  | [] => .ok start
  | name :: names => t.enter start name >>= fun place => t.walk place names

/-- Where a path starts: at the root if it begins with a slash. -/
def start (t : FileTree) (p : Path) : List String :=
  if p.toList.head? = some '/' then [] else t.home

/-- What the system asks of the text of a path before it walks it. -/
def admissible (p : Path) : Except OsError Unit :=
  if p.toList.contains '\x00' then .error .nulInPath
  else if p.isEmpty then .error .notFound
  else if 4095 < p.utf8ByteSize then .error .nameTooLong
  else .ok ()

/-- The names of the place that a path leads to. -/
def resolve (t : FileTree) (p : Path) : Except OsError (List String) := do
  admissible p
  t.walk (t.start p) p.names

/-- The file or directory at a path. -/
def find (t : FileTree) (p : Path) : Except OsError Node := do
  match t.node? (← t.resolve p) with
  | some node => return node
  | none => throw .notFound

/-- Whether something is at a path; an error where that cannot be told. -/
def exists? (t : FileTree) (p : Path) : Except OsError Bool :=
  match t.resolve p with
  | .ok _ => .ok true
  | .error .notFound => .ok false
  | .error e => .error e

/-- Whether a path leads to a directory. -/
def isDirectory (t : FileTree) (p : Path) : Bool :=
  match t.find p with
  | .ok .directory => true
  | _ => false

/-- The content of the file at a path. -/
def read (t : FileTree) (p : Path) : Except OsError Bytes := do
  match ← t.find p with
  | .file content => return content
  | .directory => throw .isDirectory

/-- The content of the file at a path as text. -/
def readText (t : FileTree) (p : Path) : Except OsError String := do
  match Utf8.decodeText? (← t.read p) with
  | some s => return s
  | none => throw .notUtf8

/-- The names in the directory at a path, ascending; nothing where there is no directory. -/
def list (t : FileTree) (p : Path) : List String :=
  match t.resolve p with
  | .ok names =>
    (t.nodes.filterMap fun (path, _) =>
      match path.reverse with
      | name :: above => if above.reverse = names then some name else none
      | [] => none).mergeSort (· ≤ ·)
  | .error _ => []

end FileTree
end MetadataAudit
