import MetadataAudit.Check.Kind
import MetadataAudit.Report.Basic
import MetadataAudit.Profile.Document
import MetadataAudit.Table.Basic

/-! # Listings

The tables in which reports, profiles and checks are shown.
-/
namespace MetadataAudit

/-- The warnings of a report. -/
def Report.table (r : Report) : Table where
  headings := [⟨"Row", .atLeast 5⟩, ⟨"Col", .atLeast 5⟩, ⟨"Header", .atMost 20⟩,
    ⟨"Message", .atMost 45⟩, ⟨"Value", .atMost 25⟩]
  rows := r.warnings.map fun w =>
    [.ofNat w.row, .ofNat w.column, .ofText w.header, .ofText w.restoredMessage, .ofText w.value]

/-- Every kind of check. -/
def Kind.table : Table where
  headings := [⟨"Name", .free⟩, ⟨"Description", .free⟩]
  rows := Kind.all.map fun k => [.ofText k.name, .ofText k.description]

/-- The validations of a profile. -/
def ProfileDocument.table (d : ProfileDocument) : Table where
  headings := [⟨"Validation", .free⟩, ⟨"Description", .free⟩]
  rows := d.validations.map fun v => [.ofText v.name, .ofText v.description]

/-- What a listing says of how many validations a profile has; a profile without any runs every
check. -/
def ProfileDocument.validationCell (d : ProfileDocument) : Cell :=
  match d.validations.length with
  | 0 => .ofText "(all)"
  | n => .ofNat n

/-- The profiles of a store. -/
def StoreDocument.table (d : StoreDocument) : Table where
  headings := [⟨"Profile", .free⟩, ⟨"Validations", .free⟩, ⟨"Last Update", .free⟩]
  rows := d.profiles.values.map fun p =>
    [.ofText p.name, p.validationCell, .ofText p.lastUpdate.display]

end MetadataAudit
