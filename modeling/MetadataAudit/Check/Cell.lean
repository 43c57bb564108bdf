import MetadataAudit.Check.Basic

/-! # Checks of single cells

Line breaks, file names, and the fields whose values come from a fixed vocabulary.
-/
namespace MetadataAudit
namespace Check

/-- No cell holds a line break, header cells included. -/
def lineBreak (profile : String) (l : Location) (g : Grid) : Outcome :=
  match g.cell l profile with
  | .error v => .violation v
  | .ok value =>
    if value.toList.any fun c => c = '\n' || c = '\r' then .reject .lineBreak l profile
    else .clean

/-- File names hold no blanks. -/
def fileName (profile : String) (l : Location) (g : Grid) : Outcome :=
  onField [Field.fileName] profile l g fun value =>
    if Text.hasBlank value then .reject .blankCharacter l profile else .clean

/-- A field whose values are terms of a fixed vocabulary. -/
structure Vocabulary where
  field : String
  terms : List String
  unknown : Problem

/-- The kinds of objects that a row may describe. -/
def objectTypes : Vocabulary :=
  ⟨Field.objectType, ["Collection", "Work", "Page"], .unknownObjectType⟩

/-- Who may see an object. -/
def visibilities : Vocabulary :=
  ⟨Field.visibility, ["open", "ucla", "private"], .unknownVisibility⟩

/-- A value is a term of its vocabulary; blanks are a problem of their own. -/
def vocabulary (v : Vocabulary) (profile : String) (l : Location) (g : Grid) : Outcome :=
  onField [v.field] profile l g fun value =>
    if Text.hasBlank value then .reject .blankCharacter l profile
    else if !v.terms.contains value then .reject v.unknown l profile
    else .clean

end Check
end MetadataAudit
