import MetadataAudit.Main
import MetadataAudit.Proofs.Audit.Kinds
import MetadataAudit.Proofs.CommandLine.Adding
import MetadataAudit.Proofs.Check.Offer
import MetadataAudit.Proofs.Audit.Groups
import MetadataAudit.Proofs.Check.License
import MetadataAudit.Proofs.Store.Acceptance
import MetadataAudit.Proofs.Store.Handles
import MetadataAudit.Proofs.Store.InPlace
import MetadataAudit.Proofs.Check.Locality
import MetadataAudit.Proofs.Audit.Union
import MetadataAudit.Proofs.Check.Ark
import MetadataAudit.Proofs.Check.RequiredField
import MetadataAudit.Proofs.Audit.Headers
import MetadataAudit.Proofs.Check.ArkParts
import MetadataAudit.Proofs.Check.Media
import MetadataAudit.Proofs.Check.HostFile
import MetadataAudit.Proofs.Check.Blank
import MetadataAudit.Proofs.Check.LicenseAddress
import MetadataAudit.Proofs.Check.Replacement
import MetadataAudit.Proofs.Rulebook.Meaning
import MetadataAudit.Proofs.Report.RoundTrip
import MetadataAudit.Proofs.Report.Warnings
import MetadataAudit.Proofs.Csv.Records
import MetadataAudit.Proofs.Csv.Sheet
import MetadataAudit.Proofs.FileTree.Growth
import MetadataAudit.Proofs.Audit.Lineup
import MetadataAudit.Proofs.Audit.Names
import MetadataAudit.Proofs.Grid.Access
import MetadataAudit.Proofs.Profile.Listed
