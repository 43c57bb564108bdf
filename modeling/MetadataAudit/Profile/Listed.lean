import MetadataAudit.Profile.Document
import MetadataAudit.Search

/-! # Profiles with their validations in a list

A profile in use keeps its validations in a list, in the order of their names and no name twice.  A list
that is given to it is put into this form.  A single validation is added at the place at which a search by
halving misses its name.
-/
namespace MetadataAudit

/-- A profile as it is kept while in use. -/
structure ListedProfile where
  name : String
  lastUpdate : Timestamp
  validations : List Validation
deriving DecidableEq

namespace ListedProfile

/-- The first validation of each name, in the order of the names. -/
def normalize (vs : List Validation) : List Validation :=
  (vs.foldl (fun d v => d.insertNew v.name v) Dictionary.empty).values

/-- A new profile; its name must not be empty. -/
def create (name : String) (vs : List Validation) (now : Timestamp) :
    Except ProfileError ListedProfile :=
  if name = "" then .error .emptyName else .ok ⟨name, now, normalize vs⟩

/-- The profile that a document describes, with the time that the document says. -/
def ofDocument (d : ProfileDocument) (now : Timestamp) : Except ProfileError ListedProfile := do
  let p ← create d.name d.validations now
  return { p with lastUpdate := d.lastUpdate }

/-- The names of the validations. -/
def validationNames (p : ListedProfile) : List String := p.validations.map Validation.name

/-- The profile under another name. -/
def rename (p : ListedProfile) (name : String) (now : Timestamp) : ListedProfile :=
  { p with name, lastUpdate := now }

/-- Adds a validation unless there is one of that name; says whether it was added. -/
def addValidation (p : ListedProfile) (name description : String) (now : Timestamp) :
    Bool × ListedProfile :=
  match Search.locate (fun v => compare v.name name) p.validations with
  | .found _ => (false, p)
  | .missing i =>
    (true, { p with
      validations := p.validations.insertIdx i ⟨name, description⟩
      lastUpdate := now })

/-- Replaces all validations. -/
def setValidations (p : ListedProfile) (vs : List Validation) (now : Timestamp) : ListedProfile :=
  { p with validations := normalize vs, lastUpdate := now }

end ListedProfile
end MetadataAudit
