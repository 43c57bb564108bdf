import MetadataAudit.Profile.Document

/-! # The store of profiles

The store keeps profiles as objects that callers may hold on to.  A handle is the number of an
object; it stays good when the object is renamed, and it still leads to the object after the store
has let go of it, but then changes through it no longer show in the store.
-/
namespace MetadataAudit

/-- The number of a profile object. -/
abbrev Handle := Nat

/-- Profiles by name, and every profile object that was ever stored. -/
structure Store where
  path : Option Path
  objects : List Profile
  index : Dictionary Handle
  lastUpdate : Timestamp
deriving DecidableEq

namespace Store

/-- A store without profiles, kept in the file at `path` if one is given. -/
def empty (path : Option Path) (now : Timestamp) : Store :=
  ⟨path, [], .empty, now⟩

/-- The object of a handle. -/
def object? (s : Store) (h : Handle) : Option Profile := s.objects[h]?

/-- The handle of the profile under a name. -/
def find? (s : Store) (name : String) : Option Handle := s.index.get? name

/-- The profile under a name. -/
def get? (s : Store) (name : String) : Option Profile := s.find? name >>= s.object?

/-- How many profiles are stored. -/
def count (s : Store) : Nat := s.index.size

/-- The names of the stored profiles, ascending. -/
def names (s : Store) : List String := s.index.names

/-- Stores a profile as a new object under its name. -/
def set (s : Store) (p : Profile) (now : Timestamp) : Except ProfileError Store :=
  if p.name = "" then .error .emptyName
  else
    .ok { s with
      objects := s.objects ++ [p]
      index := s.index.insert p.name s.objects.length
      lastUpdate := now }

/-- Lets go of the profile under a name; gives its handle, or `none` when there is none. -/
def remove (s : Store) (name : String) (now : Timestamp) : Option Handle × Store :=
  match s.find? name with
  | some h => (some h, { s with index := s.index.erase name, lastUpdate := now })
  | none => (none, s)

/-- Changes the object of a handle. -/
def modify (s : Store) (h : Handle) (f : Profile → Profile) : Store :=
  { s with objects := s.objects.modify h f }

/-- Moves the profile under `old` to the name `new`. -/
def rename (s : Store) (old new : String) (now : Timestamp) : Except ProfileError Store :=
  if new = "" then .error .emptyName
  else if old = new then
    if s.index.contains old then .ok s else .error (.notFound old)
  else if s.index.contains new then .error (.duplicate new)
  else
    match s.find? old with
    | none => .error (.notFound old)
    | some h =>
      .ok { s.modify h (·.rename new now) with
        index := (s.index.erase old).insert new h
        lastUpdate := now }

/-- Adds a validation through a handle; says whether it was added. -/
def addValidation (s : Store) (h : Handle) (name description : String) (now : Timestamp) :
    Bool × Store :=
  match s.object? h with
  | some p => ((p.addValidation name description now).1,
      s.modify h fun p => (p.addValidation name description now).2)
  | none => (false, s)

/-- Replaces all validations through a handle. -/
def setValidations (s : Store) (h : Handle) (vs : List Validation) (now : Timestamp) : Store :=
  s.modify h (·.setValidations vs now)

/-- The document that describes the stored profiles, each under its name. -/
def toDocument (s : Store) : StoreDocument where
  profiles := s.index.map fun _ h => ((s.object? h).getD default).toDocument
  lastUpdate := s.lastUpdate

/-- The store in the form of its file. -/
def text (s : Store) : String := s.toDocument.text

end Store
end MetadataAudit
