import MetadataAudit.FileTree.Device
import MetadataAudit.Store.Basic

/-! # Keeping the store in a file

A document is taken over as a whole or not at all: it must hold a profile, and every profile a name
that is its own.  A store is written to a temporary file beside its target, which then takes the
target's place, so that nobody sees half a document.
-/
namespace MetadataAudit

namespace StoreDocument

/-- The first fault in the names of the profiles, in the order of their keys. -/
def fault? (seen : List String) : List ProfileDocument → Option ProfileError
  | [] => none
  | d :: ds =>
    if d.name = "" then some .emptyName
    else if seen.contains d.name then some (.duplicate d.name)
    else fault? (d.name :: seen) ds

/-- Reads and checks the document at a path. -/
def load (t : FileTree) (path : Path) (now : Timestamp) : Except ProfileError StoreDocument := do
  let content ← (t.read path).mapError (.file .read path)
  match Parsed.ofBytes? content >>= decode? now with
  | none => throw (.undecodable path)
  | some d =>
    if d.profiles.size = 0 then throw (.noProfiles path)
    match fault? [] d.profiles.values with
    | some e => throw e
    | none => return d

end StoreDocument

namespace Store

/-- The store with the profiles of a document in place of its own. -/
def replace (s : Store) (d : StoreDocument) : Except ProfileError Store := do
  let profiles ← d.profiles.values.mapM Profile.ofDocument
  let handles := profiles.zipIdx s.objects.length
  return { s with
    objects := s.objects ++ profiles
    index := .ofList (handles.map fun (p, h) => (p.name, h))
    lastUpdate := d.lastUpdate }

/-- Takes over the document in the store's file; the store stays as it is when that fails. -/
def refresh (s : Store) (t : FileTree) (now : Timestamp) : Except ProfileError Store :=
  match s.path with
  | none => .error .pathNotConfigured
  | some path => StoreDocument.load t path now >>= s.replace

/-- Writes a content to a temporary file that was created for it, and moves that to a path. -/
def deliver (d : Device) (t : FileTree) (temporary : List String) (path : Path) (content : Bytes) :
    Except ProfileError FileTree := do
  let file := t.temporaryPath path.directory (temporary.getLast?.getD "")
  let t ← (d.writeContent t temporary content).mapError fun e => .file .write file (.atPath e file)
  (d.sync t).mapError (.file .sync file)
  (d.moveFile t temporary path).mapError (.notReplaced path)

/-- Writes a text to the file at a path: makes the directories that lead to it, creates a temporary
file beside it, writes to that, and moves it to its place.  The temporary file does not stay when one
of these steps fails. -/
def writeOn (d : Device) (t : FileTree) (path : Path) (text : String) :
    Except ProfileError Unit × FileTree :=
  let parent := path.parent?.getD ""
  match t.makeLineage d.makeDirectory parent.lineage with
  | (.error e, t) => (.error (.file .createDirectory parent e), t)
  | (.ok (), t) =>
    match d.createTemporary t path.directory with
    | .error e => (.error (.file .createTemporary path.directory e), t)
    | .ok (staged, temporary) =>
      match deliver d staged temporary path (Utf8.encode text) with
      | .error e => (.error e, staged.drop temporary)
      | .ok t => (.ok (), t)

/-- Writes a text to the file at a path, on a device that refuses nothing. -/
def writeAtomically (t : FileTree) (path : Path) (text : String) :
    Except ProfileError Unit × FileTree :=
  writeOn .sound t path text

/-- Writes the store to its file on a device. -/
def saveOn (s : Store) (d : Device) (t : FileTree) : Except ProfileError Unit × FileTree :=
  match s.path with
  | none => (.error .pathNotConfigured, t)
  | some path => writeOn d t path s.text

/-- Writes the store to its file. -/
def save (s : Store) (t : FileTree) : Except ProfileError Unit × FileTree := s.saveOn .sound t

end Store
end MetadataAudit
