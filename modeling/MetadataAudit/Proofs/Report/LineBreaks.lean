import Mathlib.Data.List.Forall2
import MetadataAudit.Listing
import MetadataAudit.Proofs.Text.Replace

/-! # Line breaks on the way into a table

A warning keeps its message on one line: line breaks are marked there, and the table of a report puts them
back in place of the marks.  A mark that a message had in it from the start is replaced with them
(`Warning.replace_markBreaks`), so the table shows the message that the violation has for people
if there is no mark in that, and only then (`Report.message_shown_iff`).
-/
namespace MetadataAudit

/-- The text of a cell, its lines one below the other. -/
def Cell.text (c : Cell) : String := "\n".intercalate c.lines

@[simp] theorem Cell.text_ofText (s : String) : (ofText s).text = s :=
  Text.intercalate_lines s

/-- The cell of a row under a heading. -/
def Table.under? (t : Table) (heading : String) (row : List Cell) : Option Cell :=
  (t.headings.map Heading.text).idxOf? heading >>= fun column => row[column]?

namespace Warning

variable {mark : String}

theorem markBreaks_eq_replace (mark s : String) : markBreaks mark s = Text.replace s "\n" mark := by
  have hnewline : "\n".toList = ['\n'] := rfl
  rw [markBreaks, Text.replace, hnewline, Text.replaceChars_singleton]

theorem newline_notMem_markBreaks (hmark : '\n' ∉ mark.toList) (s : String) :
    '\n' ∉ (markBreaks mark s).toList := by
  rw [markBreaks, String.toList_ofList, List.mem_flatMap]
  rintro ⟨c, -, hc⟩
  split at hc
  · exact hmark hc
  · rename_i hne
    exact hne (List.mem_singleton.mp hc).symm

/-- Line breaks that were marked are put back, and with them come those for marks that were there before. -/
theorem replace_markBreaks (s : String) :
    Text.replace (markBreaks breakMark s) breakMark "\n" = Text.replace s breakMark "\n" := by
  have hmark : breakMark.toList = '<' :: "br/>".toList := rfl
  have hmarked : (markBreaks breakMark s).toList =
      Text.written '\n' ('<' :: "br/>".toList) s.toList := by
    rw [markBreaks, String.toList_ofList, hmark]
    rfl
  have hnewline : "\n".toList = ['\n'] := rfl
  rw [Text.replace, Text.replace, hmarked, hmark, hnewline,
    Text.replaceChars_written (by decide) (by decide)]

/-- A text has all its line breaks back and no others exactly if no mark was in it before. -/
theorem replace_markBreaks_eq_self_iff (s : String) :
    Text.replace (markBreaks breakMark s) breakMark "\n" = s ↔ ¬ breakMark.toList <:+: s.toList := by
  rw [replace_markBreaks, Text.replace, ← String.toList_inj, String.toList_ofList]
  exact Text.replaceChars_eq_self_iff (by decide)

/-- A warning says the message of its violation with a mark in place of every line break. -/
theorem message_ofViolation (g : Grid) (v : Violation) :
    (ofViolation g v).message = Text.replace v.userMessage "\n" "<br/>" :=
  markBreaks_eq_replace breakMark v.userMessage

end Warning

/-- How the message of a violation comes into a cell: its warning says the message with `<br/>` in place of
every line break, the cell has a line break in place of every `<br/>` of the warning, and so it has the
message unchanged exactly if there is no `<br/>` in that. -/
structure Violation.ShownIn (g : Grid) (v : Violation) (cell : Cell) : Prop where
  written : (Warning.ofViolation g v).message = Text.replace v.userMessage "\n" "<br/>"
  restored : cell = .ofText (Text.replace (Warning.ofViolation g v).message "<br/>" "\n")
  unchanged : cell.text = v.userMessage ↔ ¬ "<br/>".toList <:+: v.userMessage.toList

theorem Violation.shownIn_restoredMessage (g : Grid) (v : Violation) :
    v.ShownIn g (.ofText (Warning.ofViolation g v).restoredMessage) where
  written := Warning.message_ofViolation g v
  restored := rfl
  unchanged := by
    rw [Cell.text_ofText]
    exact Warning.replace_markBreaks_eq_self_iff v.userMessage

namespace Report

/-- A table has one row for each warning, with its message under "Message". -/
theorem forall₂_message_table (r : Report) :
    List.Forall₂ (fun w row => r.table.under? "Message" row = some (.ofText w.restoredMessage))
      r.warnings r.table.rows := by
  rw [table, List.forall₂_map_right_iff, List.forall₂_same]
  intro w _
  rfl

/-- **The table shows the message of a violation.**  Where line breaks are written as `<br/>` and every
`<br/>` is then read as a line break, a text comes back exactly if it has no `<br/>` in it.  The warnings of
a report write messages in this way and its table reads them so: it has one row for each violation, in
their order, and what stands there under "Message" is the message that the violation has for people exactly
if that has no `<br/>` in it. -/
theorem message_shown_iff (vs : Violations) (g : Grid) (time : Timestamp) :
    (∀ m : String, Text.replace (Text.replace m "\n" "<br/>") "<br/>" "\n" = m ↔
      ¬ "<br/>".toList <:+: m.toList) ∧
    let t := (ofViolations vs g time).table
    List.Forall₂ (fun v row => ∃ cell, t.under? "Message" row = some cell ∧ v.ShownIn g cell)
      vs t.rows := by
  refine ⟨fun m => ?_, ?_⟩
  · rw [← Warning.markBreaks_eq_replace]
    exact Warning.replace_markBreaks_eq_self_iff m
  · intro t
    have hwarnings := (ofViolations vs g time).forall₂_message_table
    rw [ofViolations, List.forall₂_map_left_iff] at hwarnings
    refine hwarnings.imp ?_
    intro v row hrow
    exact ⟨_, hrow, v.shownIn_restoredMessage g⟩

/-- Marks do not arise from a line break and what stands beside it. -/
example : Text.replace (Text.replace "<b\nr/><br\n/>" "\n" "<br/>") "<br/>" "\n" = "<b\nr/><br\n/>" := by
  cbv

end Report
end MetadataAudit
