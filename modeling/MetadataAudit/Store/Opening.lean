import MetadataAudit.Rulebook.Basic
import MetadataAudit.Store.Persist

/-! # Opening the store

A store whose file is there holds what the file says.  Any other store begins with one profile for
each table of the rule book; such a profile names no checks and so runs all of them.
-/
namespace MetadataAudit

/-- Why the store could not be opened. -/
inductive OpenError where
  /-- Its file is no good. -/
  | unloaded (path : Path) (cause : ProfileError)
  /-- A table of the rule book can be no profile. -/
  | unseeded (name : String) (cause : ProfileError)
deriving DecidableEq

namespace OpenError

/-- What was being done, in words. -/
def message : OpenError → String
  | unloaded path _ => s!"load profiles from {path}"
  | unseeded name _ => s!"create profile {name}"

/-- What went wrong with it. -/
def cause : OpenError → ProfileError
  | unloaded _ cause | unseeded _ cause => cause

end OpenError

namespace Store

/-- Adds a profile that names no checks. -/
def plant (s : Store) (name : String) (now : Timestamp) : Except OpenError Store :=
  match Profile.create name [] now >>= fun p => s.set p now with
  | .ok s => .ok s
  | .error e => .error (.unseeded name e)

/-- A store with a profile for each table of a rule book. -/
def seeded (rules : Rulebook) (path : Option Path) (now : Timestamp) : Except OpenError Store :=
  rules.profiles.foldlM (fun s name => s.plant name now) (.empty path now)

/-- Whether there is a file to load the store from. -/
def isKept (t : FileTree) (path : Path) : Bool :=
  match t.exists? path with
  | .ok there => there
  | .error _ => false

/-- Opens the store that is kept at a path, or one that is not kept at all. -/
def opened (rules : Rulebook) (path : Option Path) (t : FileTree) (now : Timestamp) :
    Except OpenError Store :=
  match path with
  | none => seeded rules none now
  | some p =>
    if isKept t p then
      match (empty path now).refresh t now with
      | .ok s => .ok s
      | .error e => .error (.unloaded p e)
    else seeded rules path now

end Store
end MetadataAudit
