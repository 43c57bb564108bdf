import MetadataAudit.Check.Ark
import MetadataAudit.Check.Cell
import MetadataAudit.Check.HostFile
import MetadataAudit.Check.License
import MetadataAudit.Check.Media
import MetadataAudit.Check.Replacement
import MetadataAudit.Check.RequiredField
import MetadataAudit.Check.Sequence

/-! # The kinds of checks

Profiles refer to checks by name.  A check starts a run without memory of earlier ones; what it
remembers from cell to cell is its memo.
-/
namespace MetadataAudit

/-- Every kind of check. -/
inductive Kind where
  | lineBreak | ark | requiredField | objectType | visibility | sequence | hostFile | fileName
  | license | media | replacement
deriving DecidableEq

/-- What checks remember of the cells they were offered. -/
structure Memo where
  seen : License.Seen := {}
  columns : Option Media.Columns := none
  flagged : List String := []
deriving DecidableEq

/-- Why a check cannot be run. -/
inductive SetupError where
  /-- The check opens pages, but there is no way to. -/
  | missingFetch (kind : Kind)
deriving DecidableEq

namespace Kind

/-- Every kind, in the order in which they run when none is named. -/
def all : List Kind :=
  [lineBreak, ark, requiredField, objectType, visibility, sequence, hostFile, fileName, license,
   media, replacement]

/-- The name that profiles use. -/
def name : Kind → String
  | lineBreak => "EOLCheck"
  | ark => "ARKCheck"
  | requiredField => "ReqFieldCheck"
  | objectType => "ObjTypeCheck"
  | visibility => "VisibilityCheck"
  | sequence => "ItemSeqCheck"
  | hostFile => "FilePathCheck"
  | fileName => "FileNameCheck"
  | license => "LicenseCheck"
  | media => "MediaMetaCheck"
  | replacement => "UnicodeCheck"

/-- The kind of a name. -/
def ofName? (name : String) : Option Kind :=
  all.find? fun k => k.name = name

/-- What the check makes sure of. -/
def description : Kind → String
  | lineBreak => "No cell contains a line break"
  | ark => "Item ARK and Parent ARK values are well-formed ARKs"
  | requiredField => "Required fields are present and filled in"
  | objectType => "Object Type is Collection, Work or Page"
  | visibility => "Visibility is open, ucla or private"
  | sequence => "Item Sequence is a positive integer"
  | hostFile => "File Name points at an existing file"
  | fileName => "File Name contains no whitespace"
  | license => "License is a reachable URL"
  | media => "Audio and video rows carry media metadata"
  | replacement => "No cell contains a Unicode replacement character"

/-- The validation that names this kind. -/
def toValidation (k : Kind) : Validation := ⟨k.name, k.description⟩

/-- Whether the check can be run in a context. -/
def setup (k : Kind) (ctx : Context) : Except SetupError Unit :=
  if k = license ∧ ctx.fetch.isNone then .error (.missingFetch k) else .ok ()

/-- Offers one cell to a check. -/
def offer (k : Kind) (ctx : Context) (memo : Memo) (o : Offer) : Outcome × Memo :=
  match k with
  | lineBreak => (Check.lineBreak o.profile o.location o.grid, memo)
  | ark => (Ark.check ctx.rules o.profile o.location o.grid, memo)
  | requiredField => (RequiredField.check ctx.rules o.profile o.location o.grid, memo)
  | objectType => (Check.vocabulary Check.objectTypes o.profile o.location o.grid, memo)
  | visibility => (Check.vocabulary Check.visibilities o.profile o.location o.grid, memo)
  | sequence => (Sequence.check o.profile o.location o.grid, memo)
  | hostFile => (HostFile.check ctx o.profile o.location o.grid, memo)
  | fileName => (Check.fileName o.profile o.location o.grid, memo)
  | license =>
    let (outcome, seen) :=
      License.check ctx.rules (ctx.fetch.getD Fetch.unreachable) memo.seen o.profile o.location
        o.grid
    (outcome, { memo with seen })
  | media =>
    let (outcome, columns) :=
      Media.check ctx.rules memo.columns o.profile o.location o.grid
    (outcome, { memo with columns })
  | replacement =>
    let (outcome, flagged) := Replacement.check memo.flagged o.profile o.location o.grid
    (outcome, { memo with flagged })

/-- Offers cells one after another; gives what came of each. -/
def offerAll (k : Kind) (ctx : Context) (memo : Memo) : List Offer → List Outcome × Memo
  | [] => ([], memo)
  | o :: os =>
    let (outcome, memo) := k.offer ctx memo o
    let (outcomes, memo) := k.offerAll ctx memo os
    (outcome :: outcomes, memo)

/-- Offers every cell of a grid to a check without memory. -/
def scan (k : Kind) (ctx : Context) (profile : String) (g : Grid) : Outcome :=
  .join (k.offerAll ctx {} (Offer.ofGrid profile g)).1

end Kind

namespace SetupError

/-- The reason in words. -/
def message : SetupError → String
  | .missingFetch kind => s!"validator `{kind.name}` needs a URL fetcher but none is configured"

end SetupError
end MetadataAudit
