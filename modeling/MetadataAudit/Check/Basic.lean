import MetadataAudit.Check.Problem
import MetadataAudit.Fetch
import MetadataAudit.Grid
import MetadataAudit.Log.Event
import MetadataAudit.Rulebook.Basic
import MetadataAudit.Store.Basic
import MetadataAudit.Text.Blank

/-! # Checks

A check is offered the cells of a grid one by one and answers with an outcome: the violations it
found, the pages and files it asked for, and what it has to tell the log.  Most checks look at the
data cells under one field name and pass over all others.
-/
namespace MetadataAudit

/-- What checks may consult besides the grid. -/
structure Context where
  store : Store
  rules : Rulebook
  /-- The directory that holds the files which cells name. -/
  hostDir : Option Path := none
  /-- How license pages are opened; `none` when they are not to be. -/
  fetch : Option Fetch := none
  /-- Whether there is something at a path. -/
  fileExists : Path → Except OsError Bool := fun _ => .ok false

/-- A cell that is offered to a check under a profile. -/
structure Offer where
  profile : String
  location : Location
  grid : Grid
deriving DecidableEq

namespace Offer

/-- Every cell of a grid, row by row. -/
def ofGrid (profile : String) (g : Grid) : List Offer :=
  g.locations.map fun l => ⟨profile, l, g⟩

end Offer

/-- What came of offering cells to a check. -/
structure Outcome where
  violations : Violations := []
  /-- The addresses of the pages that were opened, in order. -/
  fetched : List String := []
  /-- The paths that were looked up, in order. -/
  looked : List Path := []
  events : List Log.Event := []

namespace Field

def itemArk : String := "Item ARK"
def parentArk : String := "Parent ARK"
def objectType : String := "Object Type"
def visibility : String := "Visibility"
def itemSequence : String := "Item Sequence"
def fileName : String := "File Name"
def license : String := "License"
def resourceType : String := "Type.typeOfResource"

end Field

/-- A violation for a problem. -/
def Violation.ofProblem (p : Problem) (l : Location) (profile : String) : Violation :=
  .of p.text l profile

namespace Outcome

/-- Nothing to report. -/
def clean : Outcome := {}

/-- One violation. -/
def violation (v : Violation) : Outcome := { violations := [v] }

/-- One problem with the offered cell. -/
def reject (p : Problem) (l : Location) (profile : String) : Outcome :=
  violation (.ofProblem p l profile)

/-- One outcome after another. -/
def join (os : List Outcome) : Outcome where
  violations := os.flatMap violations
  fetched := os.flatMap fetched
  looked := os.flatMap looked
  events := os.flatMap events

@[simp] theorem violations_join (os : List Outcome) :
    (join os).violations = os.flatMap violations := rfl

@[simp] theorem fetched_join (os : List Outcome) : (join os).fetched = os.flatMap fetched := rfl

@[simp] theorem looked_join (os : List Outcome) : (join os).looked = os.flatMap looked := rfl

end Outcome

namespace Grid

/-- The text at a location if it is a data cell under one of the given field names.  A cell past
the end of the header row belongs to no field. -/
def dataCell (g : Grid) (l : Location) (profile : String) (fields : List String) :
    Except Violation (Option String) := do
  let value ← g.cell l profile
  if l.isHeader then return none
  match g.headers[l.col]? with
  | some name => return if fields.contains name then some value else none
  | none => return none

end Grid

namespace Check

/-- Offers the data cells under one of the given field names to `judge`, and passes over others. -/
def onField (fields : List String) (profile : String) (l : Location) (g : Grid)
    (judge : String → Outcome) : Outcome :=
  match g.dataCell l profile fields with
  | .error v => .violation v
  | .ok none => .clean
  | .ok (some value) => judge value

end Check
end MetadataAudit
