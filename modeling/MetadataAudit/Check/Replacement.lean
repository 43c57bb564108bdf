import MetadataAudit.Check.Basic

/-! # Replacement characters

The character U+FFFD is the mark of a conversion that went wrong.  A cell that repeats a text which
was reported before is reported as a duplicate.
-/
namespace MetadataAudit
namespace Replacement

/-- Whether a text holds the replacement character. -/
def isMarked (value : String) : Bool := value.toList.contains '\uFFFD'

/-- No cell holds a replacement character, header cells included. -/
def check (flagged : List String) (profile : String) (l : Location) (g : Grid) :
    Outcome × List String :=
  match g.cell l profile with
  | .error v => (.violation v, flagged)
  | .ok value =>
    if flagged.contains value then (.reject .replacementRepeated l profile, flagged)
    else if isMarked value then (.reject .replacementCharacter l profile, value :: flagged)
    else (.clean, flagged)

end Replacement
end MetadataAudit
