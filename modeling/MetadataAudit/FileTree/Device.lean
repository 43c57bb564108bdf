import MetadataAudit.FileTree.Write

/-! # Devices

What keeps the files may refuse a step that the tree would allow, since it is full or fails.  Whether
it does may depend on how the tree stands.  To remove a file takes no room and is not refused.
-/
namespace MetadataAudit

/-- What a device is asked to do. -/
inductive DeviceStep where
  | makeDirectory (path : Path)
  | createFile (directory : Path)
  | writeContent (content : Bytes)
  /-- Makes sure that what was written stays written. -/
  | sync
  | moveFile (path : Path)
deriving DecidableEq

/-- The steps that are refused, and why, as the tree stands. -/
abbrev Device := FileTree → DeviceStep → Option OsError

namespace Device

/-- A device that refuses nothing. -/
def sound : Device := fun _ _ => none

variable (d : Device) (t : FileTree)

/-- Takes a step that the tree allows. -/
def grant {α : Type} (step : DeviceStep) (a : α) : Except OsError α :=
  match d t step with
  | some e => .error e
  | none => .ok a

/-- Makes one directory. -/
def makeDirectory (p : Path) : Except OsError FileTree :=
  t.makeDirectory p >>= d.grant t (.makeDirectory p)

/-- Creates an empty temporary file in a directory; gives the names it is kept under. -/
def createTemporary (directory : Path) : Except OsError (FileTree × List String) :=
  (t.stage directory [] >>= d.grant t (.createFile directory)).mapError
    (.atPath · (t.temporaryPath directory FileTree.firstTemporaryName))

/-- Writes the content of the file under a list of names. -/
def writeContent (names : List String) (content : Bytes) : Except OsError FileTree :=
  d.grant t (.writeContent content) (t.put names (.file content))

/-- Makes sure that what was written stays written. -/
def sync : Except OsError Unit := d.grant t .sync ()

/-- Moves what is under a list of names to a path, in place of the file that was there. -/
def moveFile (names : List String) (p : Path) : Except OsError FileTree :=
  t.move names p >>= d.grant t (.moveFile p)

end Device
end MetadataAudit
