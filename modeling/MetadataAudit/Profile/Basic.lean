import MetadataAudit.Dictionary
import MetadataAudit.FileTree.Basic
import MetadataAudit.Timestamp.Basic

/-! # Profiles

A profile is a named set of validations: names of checks, each with a description.  Of two
validations with one name the first is kept, and they are listed in the order of their names.
-/
namespace MetadataAudit

/-- The name of a check with a description of it. -/
structure Validation where
  name : String
  description : String := ""
deriving DecidableEq

/-- What was being done to a file when it failed. -/
inductive FileStep where
  | read | createDirectory | createTemporary | write | sync
deriving DecidableEq

/-- Why an operation on profiles failed. -/
inductive ProfileError where
  | emptyName
  | pathNotConfigured
  | file (step : FileStep) (path : Path) (cause : OsError)
  /-- The file is no document of profiles. -/
  | undecodable (path : Path)
  | noProfiles (path : Path)
  | notFound (name : String)
  | duplicate (name : String)
  /-- The finished document could not be put in place. -/
  | notReplaced (path : Path) (cause : OsError)
deriving DecidableEq

namespace ProfileError

/-- The words for a step in messages. -/
def stepText : FileStep → String
  | .read => "read"
  | .createDirectory => "create directory"
  | .createTemporary => "create temporary"
  | .write => "write"
  | .sync => "sync"

/-- What went wrong, in words. -/
def message : ProfileError → String
  | .emptyName => "profile name cannot be empty"
  | .pathNotConfigured => "no profiles file path is configured"
  | .file step path _ => s!"Failed to {stepText step} file: {path}"
  | .undecodable path => s!"Failed to decode profiles JSON in {path}"
  | .noProfiles path => s!"no profiles found in {path}"
  | .notFound name => s!"profile '{name}' not found"
  | .duplicate name => s!"profile '{name}' already exists"
  | .notReplaced path _ => s!"Failed to rename temporary file to {path}"

/-- What a person may do about it. -/
def suggestion? : ProfileError → Option String
  | .pathNotConfigured => some "Set PROFILES_FILE or pass --profiles-file."
  | .file .read _ _ => some "Check that the file exists and you have permission to read it."
  | .file _ _ _ => some "Check that you have permission to write to this location."
  | .undecodable _ | .noProfiles _ =>
    some "Restore the profiles file from a backup or re-create it."
  | .notReplaced _ _ => some "Free up disk space or check the target directory's permissions."
  | .notFound _ => some "Run `profiles list` to see the stored profile names."
  | .emptyName | .duplicate _ => none

/-- The failure of the system behind the error, in words. -/
def cause? : ProfileError → Option String
  | .file _ _ cause | .notReplaced _ cause => some cause.text
  | _ => none

end ProfileError

/-- A named set of validations; `checks` gives each name its description. -/
structure Profile where
  name : String
  lastUpdate : Timestamp
  checks : Dictionary String
deriving DecidableEq, Inhabited

namespace Profile

/-- The validations of a list by name; the first of a name is kept. -/
def gather (vs : List Validation) : Dictionary String :=
  vs.foldl (fun d v => d.insertNew v.name v.description) .empty

/-- A new profile; its name must not be empty. -/
def create (name : String) (vs : List Validation) (now : Timestamp) :
    Except ProfileError Profile :=
  if name = "" then .error .emptyName else .ok ⟨name, now, gather vs⟩

/-- The names of the validations, ascending. -/
def validationNames (p : Profile) : List String := p.checks.names

/-- The validations in the order of their names. -/
def validations (p : Profile) : List Validation :=
  p.checks.entries.map fun e => ⟨e.1, e.2⟩

/-- The profile under another name. -/
def rename (p : Profile) (name : String) (now : Timestamp) : Profile :=
  { p with name, lastUpdate := now }

/-- Adds a validation unless there is one of that name; says whether it was added. -/
def addValidation (p : Profile) (name description : String) (now : Timestamp) : Bool × Profile :=
  if p.checks.contains name then (false, p)
  else (true, { p with checks := p.checks.insert name description, lastUpdate := now })

/-- Replaces all validations. -/
def setValidations (p : Profile) (vs : List Validation) (now : Timestamp) : Profile :=
  { p with checks := gather vs, lastUpdate := now }

end Profile
end MetadataAudit
