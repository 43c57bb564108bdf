import MetadataAudit.Proofs.Audit.Groups
import MetadataAudit.Proofs.Report.LineBreaks
import MetadataAudit.Proofs.Text.Decimal
import MetadataAudit.Proofs.Text.Span

/-! # What a report says of an audit

Everything an audit reports is about a cell of its grid, so a report that looks up this cell finds it,
and a field name is left empty only where the header row has none (`Warning.shows_ofViolation`).  A
report therefore shows every violation of the audit, in order, and its summary counts them
(`Report.shows_of_run`).
-/
namespace MetadataAudit

namespace Warning

/-- What a warning shows of a violation: where it is, the field name in row 0 of its column, or nothing
where row 0 has no such column, the text of its cell, and its message.  Line breaks are marked. -/
structure Shows (g : Grid) (v : Violation) (w : Warning) : Prop where
  row : w.row = v.location.row
  column : w.column = v.location.col
  header : w.header = (g.get? ⟨0, v.location.col⟩).getD ""
  value : ∃ text, g.get? v.location = some text ∧ w.value = Text.replace text "\n" "\\n"
  message : w.message = Text.replace v.userMessage "\n" "<br/>"
  /-- Message and value stay on one line each. -/
  unbroken : '\n' ∉ w.message.toList ∧ '\n' ∉ w.value.toList

variable {g : Grid} {v : Violation} {text : String}

/-- Above a cell there is a field name if row 0 has a cell there. -/
theorem header_of_get? (h : g.get? v.location = some text) :
    (g.header v.location v.profile).toOption = g.get? ⟨0, v.location.col⟩ := by
  rw [Grid.get?_row_zero]
  cases hname : g.headers[v.location.col]? with
  | none =>
    rw [Grid.header_eq_error h hname]
    rfl
  | some name =>
    rw [Grid.header_eq_ok h hname]
    rfl

/-- **A warning shows its violation**, if that is about a cell of the grid. -/
theorem shows_ofViolation (h : g.get? v.location = some text) : Shows g v (ofViolation g v) where
  row := rfl
  column := rfl
  header := by rw [ofViolation, header_of_get? h]
  value := by
    refine ⟨text, h, ?_⟩
    rw [ofViolation, Grid.cell_of_get?_eq_some h, ← markBreaks_eq_replace]
    rfl
  message := markBreaks_eq_replace breakMark v.userMessage
  unbroken := ⟨newline_notMem_markBreaks (by decide) _, newline_notMem_markBreaks (by decide) _⟩

end Warning

namespace Report

/-- The number of problems that a summary speaks of: the one it begins with, or none when it begins with
a word. -/
def statedCount (summary : String) : Nat :=
  Decimal.value (summary.toList.takeWhile Char.isDigit)

theorem statedCount_repr_append (n : Nat) {rest : String}
    (hrest : ∀ c ∈ rest.toList.head?, c.isDigit = false) : statedCount (Nat.repr n ++ rest) = n := by
  rw [statedCount, String.toList_append,
    Text.takeWhile_span (fun c hc => Decimal.isDigit_of_mem_repr hc) hrest, Decimal.value_repr]

/-- **A summary counts the warnings.** -/
theorem statedCount_summary (r : Report) : statedCount r.summary = r.size := by
  rw [summary]
  split
  · rename_i hsize
    rw [hsize]
    decide
  · rename_i hsize
    have hone : s!"1 problem found for profile '{r.profile}'." =
        Nat.repr 1 ++ (" problem found for profile '" ++ r.profile ++ "'.") := rfl
    rw [hsize, hone]
    exact statedCount_repr_append 1 (by simp [String.toList_append])
  · have hmany : s!"{r.size} problems found for profile '{r.profile}'." =
        Nat.repr r.size ++ (" problems found for profile '" ++ r.profile ++ "'.") := by
      rw [← String.append_assoc, ← String.append_assoc]
      rfl
    rw [hmany]
    exact statedCount_repr_append r.size (by simp [String.toList_append])

variable {ctx : Context} {profile : String} {g : Grid} {a : Audit}

theorem profile_ofViolations {vs : Violations} {time : Timestamp}
    (hvs : ∀ v ∈ vs, v.profile = profile) (hne : (ofViolations vs g time).warnings ≠ []) :
    (ofViolations vs g time).profile = profile := by
  cases vs with
  | nil => exact absurd rfl hne
  | cons v vs => exact hvs v List.mem_cons_self

/-- **What a report says of an audit.**  It has one warning for each violation, in their order, and the
warning shows that violation; if it has one it names the profile that was asked for; and its summary
states how many violations there are. -/
theorem shows_of_run (h : Audit.run ctx profile g = .ok a) (time : Timestamp) :
    let r := ofViolations a.violations g time
    List.Forall₂ (Warning.Shows g) a.violations r.warnings ∧
      (r.warnings ≠ [] → r.profile = profile) ∧ r.time = time ∧
      statedCount r.summary = a.violations.length := by
  intro r
  have haddress := fun v (hv : v ∈ a.violations) => Audit.address_of_run h hv
  refine ⟨?_, profile_ofViolations fun v hv => (haddress v hv).2, rfl, ?_⟩
  · have hwarnings : r.warnings = a.violations.map (Warning.ofViolation g) := rfl
    rw [hwarnings, List.forall₂_map_right_iff, List.forall₂_same]
    intro v hv
    obtain ⟨text, htext⟩ := (haddress v hv).1
    exact Warning.shows_ofViolation htext
  · rw [statedCount_summary, size]
    exact List.length_map _

/-- Two line breaks in cells, one of them beyond the header row, and one in a message. -/
theorem shows_of_run_line_breaks :
    let ctx : Context := {
      store := ⟨none, [⟨"p", .epoch, (Dictionary.empty.insert "EOLCheck" "").insert
        "FilePathCheck" ""⟩], Dictionary.empty.insert "p" 0, .epoch⟩
      rules := .builtin
      hostDir := some "host" }
    let g : Grid := ⟨[["File Name"], ["a\nb", "\n"]]⟩
    ∃ a, Audit.run ctx "p" g = .ok a ∧
      a.violations.map Violation.location = [⟨1, 0⟩, ⟨1, 1⟩, ⟨1, 0⟩] ∧
        let r := ofViolations a.violations g .epoch
        List.Forall₂ (Warning.Shows g) a.violations r.warnings ∧
          (r.warnings ≠ [] → r.profile = "p") ∧ r.time = .epoch ∧
          statedCount r.summary = a.violations.length := by
  intro ctx g
  exact ⟨_, rfl, by decide, @shows_of_run ctx "p" g _ rfl .epoch⟩

end Report
end MetadataAudit
