import MetadataAudit.FileTree.Basic

/-! # Changing file trees

Directories are made from the top down, and those already made stay when a later one fails.  A file
is put under a path by a single step that either replaces what was there or fails; a content that
takes long to write goes into a temporary file first, which is then moved to the path.
-/
namespace MetadataAudit
namespace FileTree

/-- The tree without the node under a list of names. -/
def drop (t : FileTree) (names : List String) : FileTree :=
  { t with nodes := t.nodes.filter fun e => e.1 != names }

/-- The tree with a node under a list of names. -/
def put (t : FileTree) (names : List String) (node : Node) : FileTree :=
  { t with nodes := (t.drop names).nodes ++ [(names, node)] }

/-- The last name of a path, and the names before it. -/
def splitLast? (names : List String) : Option (List String × String) :=
  match names.reverse with
  | name :: above => some (above.reverse, name)
  | [] => none

/-- The names without the empty ones at the end. -/
def dropTrailing (names : List String) : List String :=
  (names.reverse.dropWhile (· = "")).reverse

/-- The directory that the last name of a path is looked up in. -/
def enclosing (t : FileTree) (p : Path) (above : List String) : Except OsError (List String) := do
  let place ← t.walk (t.start p) above
  if t.node? place = some .directory then return place else throw .notDirectory

/-- Makes one directory. -/
def makeDirectory (t : FileTree) (p : Path) : Except OsError FileTree := do
  admissible p
  match splitLast? (dropTrailing p.names) with
  | none => throw .alreadyExists
  | some (above, name) =>
    let place ← t.enclosing p above
    if name = "." ∨ name = ".." then throw .alreadyExists
    if 255 < name.utf8ByteSize then throw .nameTooLong
    if (t.node? (place ++ [name])).isSome then throw .alreadyExists
    return t.put (place ++ [name]) .directory

/-- Makes the directories of a list that starts with the deepest, each in the way of `make`; those
above are made only where they are missed. -/
def makeLineage (make : FileTree → Path → Except OsError FileTree) (t : FileTree) :
    List Path → Except OsError Unit × FileTree
  | [] => (.ok (), t)
  | p :: above =>
    match make t p with
    | .ok t => (.ok (), t)
    | .error .notFound =>
      match t.makeLineage make above with
      | (.error e, t) => (.error e, t)
      | (.ok (), t) =>
        match make t p with
        | .ok t => (.ok (), t)
        | .error e => if t.isDirectory p then (.ok (), t) else (.error e, t)
    | .error e => if t.isDirectory p then (.ok (), t) else (.error e, t)

/-- Makes a directory and those that lead to it. -/
def makeDirectories (t : FileTree) (p : Path) : Except OsError Unit × FileTree :=
  t.makeLineage makeDirectory p.lineage

/-- The names under which a file of this path is kept; an error where no file can be. -/
def fileTarget (t : FileTree) (p : Path) : Except OsError (List String) := do
  admissible p
  match splitLast? (dropTrailing p.names) with
  | none => throw .isDirectory
  | some (above, name) =>
    let place ← t.enclosing p above
    if dropTrailing p.names ≠ p.names ∨ name = "." ∨ name = ".." then throw .isDirectory
    if 255 < name.utf8ByteSize then throw .nameTooLong
    if t.node? (place ++ [name]) = some .directory then throw .isDirectory
    return place ++ [name]

/-- Puts a file under a path, in place of the one that was there. -/
def write (t : FileTree) (p : Path) (content : Bytes) : Except OsError FileTree := do
  return t.put (← t.fileTarget p) (.file content)

/-- Adds to the end of the file under a list of names, or makes the file. -/
def extend (t : FileTree) (names : List String) (content : Bytes) : FileTree :=
  match t.node? names with
  | some (.file old) => t.put names (.file (old ++ content))
  | _ => t.put names (.file content)

/-- Adds to the end of the file under a path, or makes the file. -/
def append (t : FileTree) (p : Path) (content : Bytes) : Except OsError FileTree := do
  return t.extend (← t.fileTarget p) content

/-- Removes the file under a path. -/
def remove (t : FileTree) (p : Path) : Except OsError FileTree := do
  let names ← t.resolve p
  match t.node? names with
  | some (.file _) => return t.drop names
  | some .directory => throw .isDirectory
  | none => throw .notFound

/-- How many names are tried for a temporary file. -/
def attempts : Nat := 65536

/-- The name of a temporary file. -/
def temporaryName (n : Nat) : String := s!".tmp{100000 + n}"

/-- The name that is tried first. -/
def firstTemporaryName : String := temporaryName (attempts - 1)

/-- The path of a temporary file in a directory, from the root on. -/
def temporaryPath (t : FileTree) (directory : Path) (name : String) : Path :=
  Path.join (Path.join ("/" ++ "/".intercalate t.home) directory) name

/-- The length of the name of a temporary file. -/
def temporaryLength : Nat := 10

/-- A name for a temporary file that nothing in a directory has. -/
def freeName? (t : FileTree) (place : List String) : Nat → Option String
  | 0 => none
  | left + 1 =>
    if (t.node? (place ++ [temporaryName left])).isNone then some (temporaryName left)
    else t.freeName? place left

/-- Writes a temporary file into a directory; gives the names it is kept under. -/
def stage (t : FileTree) (directory : Path) (content : Bytes) :
    Except OsError (FileTree × List String) := do
  admissible directory
  if 4095 < directory.utf8ByteSize + 1 + temporaryLength then throw .nameTooLong
  let place ← t.resolve directory
  if t.node? place ≠ some .directory then throw .notDirectory
  match t.freeName? place attempts with
  | some name => return (t.put (place ++ [name]) (.file content), place ++ [name])
  | none => throw .alreadyExists

/-- Moves what is under a list of names to a path, in place of the file that was there. -/
def move (t : FileTree) (names : List String) (p : Path) : Except OsError FileTree := do
  let target ← t.fileTarget p
  match t.node? names with
  | some node => return (t.drop names).put target node
  | none => throw .notFound

end FileTree
end MetadataAudit
