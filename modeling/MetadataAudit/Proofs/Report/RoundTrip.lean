import MetadataAudit.Proofs.Profile.Document
import MetadataAudit.Report.Document

/-! # Reports written and read again

A report is read back from the text that it is written as (`Report.ofText?_text_of_fits`).  Texts and times may
be any there are, and rows and columns any that a reader takes, which are those of 64 bits.
-/
namespace MetadataAudit

theorem Parsed.natural?_natural {n : Nat} (h : n ≤ Decimal.largest) :
    (Parsed.natural n).natural? = some n := if_pos h

/-- A warning with an address of 64 bits for row and column. -/
structure Warning.Fits (w : Warning) : Prop where
  row : w.row ≤ Decimal.largest
  column : w.column ≤ Decimal.largest

theorem Warning.decode?_toJson {w : Warning} (hw : w.Fits) : decode? w.toJson.parsed = some w := by
  have hfields : w.toJson.parsed.fields? ["message", "header", "column", "row", "value"] =
      some [("message", .text w.message), ("header", .text w.header),
        ("column", .natural w.column), ("row", .natural w.row), ("value", .text w.value)] :=
    Parsed.fields?_record [("message", .text w.message), ("header", .text w.header),
      ("column", .natural w.column), ("row", .natural w.row), ("value", .text w.value)]
      (by simp) (by simp)
  rw [decode?, hfields]
  simp only [Option.bind_eq_bind, Option.bind_some, Parsed.required, List.lookup_cons_self,
    String.reduceBEq, List.lookup_cons, Parsed.text?, Parsed.natural?_natural hw.row,
    Parsed.natural?_natural hw.column]
  rfl

namespace Report

variable {r : Report}

theorem decode?_toJson (hr : ∀ w ∈ r.warnings, w.Fits) : decode? r.toJson.parsed = some r := by
  have hwarnings : (Json.parsed (.list (r.warnings.map Warning.toJson))).list? Warning.decode? =
      some r.warnings := by
    rw [Json.parsed, Json.parsedItems_eq_map, List.map_map, Parsed.list?]
    exact mapM_map_eq_some fun w hw => Warning.decode?_toJson (hr w hw)
  have hfields : r.toJson.parsed.fields? ["profile", "time", "warnings"] =
      some [("profile", .text r.profile), ("time", .text r.time.text),
        ("warnings", Json.parsed (.list (r.warnings.map Warning.toJson)))] :=
    Parsed.fields?_record [("profile", .text r.profile), ("time", .text r.time.text),
      ("warnings", Json.parsed (.list (r.warnings.map Warning.toJson)))] (by simp) (by simp)
  rw [decode?, hfields]
  simp only [Option.bind_eq_bind, Option.bind_some, Parsed.required, List.lookup_cons_self,
    String.reduceBEq, List.lookup_cons, Parsed.text?, Parsed.timestamp?_text, hwarnings]
  rfl

/-- **A written report is read as itself**, whatever its texts and its time are. -/
theorem ofText?_text_of_fits (r : Report) (hr : ∀ w ∈ r.warnings, w.Fits) : ofText? r.text = some r := by
  rw [ofText?, text, Json.ofText?_toPretty, Option.bind_eq_bind, Option.bind_some, decode?_toJson hr]

/-- The largest row and column, a leap second before the year 0, and texts with a quote, a backslash,
line breaks, control characters and a character beyond 16 bits. -/
theorem ofText?_text_of_fits_unusual :
    let leap : Timestamp := ⟨⟨-1, 12, 31⟩, 23, 59, 60, 999999999, by decide, by decide, by decide,
      by decide, by decide⟩
    let w : Warning := ⟨"\"\\\n\r\x00\x7f", "", 18446744073709551615, 18446744073709551615, "🎬\u2028"⟩
    let r : Report := ⟨"", leap, [w, ⟨"", "Título", 0, 0, "</"⟩]⟩
    (∀ v ∈ r.warnings, v.Fits) ∧ ofText? r.text = some r := by
  intro leap w r
  have hfits : ∀ v ∈ r.warnings, v.Fits := by
    simp only [r, List.forall_mem_cons, List.not_mem_nil, false_imp_iff, implies_true, and_true]
    exact ⟨⟨by decide, by decide⟩, ⟨by decide, by decide⟩⟩
  exact ⟨hfits, ofText?_text_of_fits r hfits⟩

end Report
end MetadataAudit
