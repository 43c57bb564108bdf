import MetadataAudit.CommandLine.Run
import MetadataAudit.CommandLine.Usage
import Std.Time.DateTime.Timestamp

/-! # The program

Reads from the system what an invocation needs, runs it, and writes back what it has changed.  The
program itself opens no connections.
-/
namespace MetadataAudit
namespace Program

/-- The variables that stand in for options. -/
def variableNames : List String :=
  ["PROFILES_FILE", "RULES_FILE", "HOST_DIR", "URL_TIMEOUT_SECS", "RUST_LOG"]

/-- The variables that are set. -/
def environment : IO Variables :=
  variableNames.filterMapM fun name => return (← IO.getEnv name).map (name, ·)

/-- The present time. -/
def now : IO Timestamp := do
  let t ← Std.Time.Timestamp.now
  return (Timestamp.ofNanos? t.toNanosecondsSinceUnixEpoch.val).getD Timestamp.epoch

/-- The path of a list of names. -/
def pathOf (names : List String) : String := "/" ++ "/".intercalate names

/-- Whether an action ends without an error. -/
def succeeds {α : Type} (action : IO α) : IO Bool :=
  try
    let _ ← action
    return true
  catch _ => return false

/-- What is under a list of names; the content of a file is read only if it is wanted. -/
def node? (names : List String) (wanted : Bool) : IO (Option Node) := do
  let path := pathOf names
  -- a path goes on only below a directory
  if ← succeeds (IO.FS.Handle.mk (path ++ "/.") .read) then return some .directory
  if ← succeeds (IO.FS.Handle.mk path .read) then
    if wanted then return some (.file (← IO.FS.readBinFile path).toList)
    return some (.file [])
  return none

/-- Adds to a tree what the names of a path lead to, beginning at other names. -/
def capture (wanted : Bool) (t : FileTree) (place : List String) : List String → IO FileTree
  | [] => return t
  | name :: names =>
    if name = "" ∨ name = "." then capture wanted t place names
    else if name = ".." then capture wanted t place.dropLast names
    else do
      let here := place ++ [name]
      if (t.node? here).isSome then capture wanted t here names
      else
        match ← node? here wanted with
        | some node => capture wanted (t.put here node) here names
        | none => return t

/-- Adds to a tree what some paths lead to. -/
def captureAll (wanted : Bool) (t : FileTree) (paths : List Path) : IO FileTree :=
  paths.foldlM (fun t p => capture wanted t (t.start p) p.names) t

/-- Makes one file or directory. -/
def make (names : List String) : Node → IO Unit
  | .directory => IO.FS.createDir (pathOf names)
  | .file content => do
    let beside := pathOf (names.dropLast ++ [".audit-" ++ names.getLast?.getD ""])
    IO.FS.writeBinFile beside ⟨content.toArray⟩
    IO.FS.rename beside (pathOf names)

/-- Makes what is in a tree but was not in an earlier one. -/
def writeBack (before after : FileTree) : IO Unit :=
  after.nodes.forM fun (names, node) => do
    if before.node? names ≠ some node then make names node

/-- Runs an invocation and gives the exit code. -/
def run (i : Invocation) : IO UInt32 := do
  let home := Path.names (← IO.currentDir).toString
  let sheet := match i.command with
    | .validate v => [v.sheet]
    | _ => []
  let files := i.profilesFile.toList ++ i.rulesFile.toList ++ i.logging.file.toList ++ sheet
  let tree ← captureAll true (.workingIn (home.filter (· ≠ ""))) files
  let surroundings : Surroundings :=
    { tree, network := .unreachable, now := ← now }
  let tree ← captureAll false tree (Command.lookups i surroundings)
  let conclusion := i.run { surroundings with tree }
  writeBack tree conclusion.tree
  let output ← IO.getStdout
  let errors ← IO.getStderr
  conclusion.output.forM output.putStrLn
  conclusion.errors.forM errors.putStrLn
  return UInt32.ofNat conclusion.code

end Program
end MetadataAudit

/-- Runs the program with the given arguments. -/
def main (args : List String) : IO UInt32 := do
  match MetadataAudit.Invocation.ofArguments (← MetadataAudit.Program.environment) args with
  | .ok i => MetadataAudit.Program.run i
  | .error .misuse => do
    (← IO.getStderr).putStrLn "error: the arguments fit no command; see --help"
    return 2
  | .error (.asked topic) => do
    (MetadataAudit.Usage.answerTo topic).forM (← IO.getStdout).putStrLn
    return 0
