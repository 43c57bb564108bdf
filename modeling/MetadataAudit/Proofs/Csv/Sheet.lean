import MetadataAudit.Csv.Sheet
import MetadataAudit.Proofs.Csv.Records

/-! # Spreadsheets written and read again

Every text that writes a table begins with a byte order mark only if the first cell does
(`Csv.marked_of_writes`), so a reader takes no other mark away than one that was put before the whole
text.  A table whose first cell has none is therefore read back as it is from every text that writes it,
with a mark before the text or without (`Grid.ofCsv_of_writes`).
-/
namespace MetadataAudit

/-- A text begins with a byte order mark. -/
def Text.IsMarked (s : String) : Prop := s.toList.head? = some '\uFEFF'

namespace Csv

open Text (IsMarked)

variable {alone : Prop} {cell piece text : String} {cells row : List String}
  {rows : List (List String)} {bs : Bytes}

/-! ## Texts with a mark -/

theorem marked_of_append {s t : String} {c : Char} (ht : t.toList.head? = some c)
    (hc : c ≠ '\uFEFF') (h : IsMarked (s ++ t)) : IsMarked s := by
  rw [IsMarked, String.toList_append, List.head?_append, ht, Option.or_eq_some_iff] at h
  rcases h with h | ⟨-, h⟩
  · exact h
  · exact absurd (Option.some.inj h) hc

theorem marked_of_writesCell (hw : WritesCell alone cell piece) (h : IsMarked piece) :
    IsMarked cell := by
  cases hw with
  | bare => exact h
  | quoted =>
    rw [IsMarked, String.toList_ofList] at h
    exact absurd h (by simp)

theorem marked_of_writesCells (hw : WritesCells alone (cell :: cells) text) (h : IsMarked text) :
    IsMarked cell := by
  cases hw with
  | last hcell => exact marked_of_writesCell hcell h
  | cons hcell _ =>
    rw [String.append_assoc] at h
    refine marked_of_writesCell hcell (marked_of_append (c := ',') ?_ (by decide) h)
    rw [String.toList_append]
    rfl

theorem marked_of_writesRow {line rest : String} (hw : WritesRow (cell :: cells) line)
    (h : IsMarked (line ++ rest)) : IsMarked cell := by
  cases hw with
  | lineFeed hcells =>
    rw [String.append_assoc] at h
    refine marked_of_writesCells hcells (marked_of_append (c := '\n') ?_ (by decide) h)
    rw [String.toList_append]
    rfl
  | carriageReturn hcells =>
    rw [String.append_assoc] at h
    refine marked_of_writesCells hcells (marked_of_append (c := '\r') ?_ (by decide) h)
    rw [String.toList_append]
    rfl

/-! ## Rows with and without cells -/

theorem exists_writesCells (alone : Prop) (h : row ≠ []) : ∃ text, WritesCells alone row text := by
  induction row with
  | nil => exact absurd rfl h
  | cons cell cells ih =>
    by_cases hcells : cells = []
    · subst hcells
      exact ⟨_, .last .quoted⟩
    · obtain ⟨text, htext⟩ := ih hcells
      exact ⟨_, .cons .quoted htext⟩

/-- **Every table can be written**, if each row has a cell. -/
theorem exists_writes (h : ∀ row ∈ rows, row ≠ []) : ∃ text, Writes rows text := by
  induction rows with
  | nil => exact ⟨_, .nil⟩
  | cons row rows ih =>
    rw [List.forall_mem_cons] at h
    obtain ⟨line, hline⟩ := exists_writesCells (row.length = 1) h.1
    obtain ⟨text, htext⟩ := ih h.2
    exact ⟨_, .cons (.lineFeed hline) htext⟩

theorem ne_nil_of_writesRow {line : String} (hw : WritesRow row line) : row ≠ [] := by
  cases hw with
  | lineFeed hcells => cases hcells <;> exact nofun
  | carriageReturn hcells => cases hcells <;> exact nofun

/-- **A text that writes a table** begins with a mark only if the first cell does. -/
theorem marked_of_writes (hw : Writes rows text) (h : IsMarked text) :
    ∃ cell cells below, rows = (cell :: cells) :: below ∧ IsMarked cell := by
  cases hw with
  | nil => exact absurd h (by simp [IsMarked])
  | @cons row below line rest hrow hrows =>
    obtain ⟨cell, cells, rfl⟩ := List.exists_cons_of_ne_nil (ne_nil_of_writesRow hrow)
    exact ⟨cell, cells, below, rfl, marked_of_writesRow hrow h⟩

/-! ## The bytes of a mark -/

/-- Only a text with a mark begins with the bytes of one. -/
theorem marked_of_orderMark {s : String} (h : orderMark <+: Utf8.encode s) : IsMarked s := by
  obtain ⟨rest, hrest⟩ := h
  have hbytes : Utf8.encode "\uFEFF" = orderMark := rfl
  have hmark := Utf8.decode_encode_append "\uFEFF" rest
  rw [hbytes, hrest, Utf8.decode_encode] at hmark
  cases hs : s.toList with
  | nil =>
    rw [hs] at hmark
    cases hmark
  | cons c cs =>
    rw [hs, List.map_cons] at hmark
    rw [IsMarked, hs]
    exact (List.cons.inj hmark).1

/-- A mark before the whole text is no part of the first field. -/
theorem map_fields_records_append (bs : Bytes) :
    (records (orderMark ++ bs)).map Record.fields = (Reader.within .gap [] []).rows bs := by
  have hprefix : orderMark.isPrefixOf (orderMark ++ bs) = true :=
    List.isPrefixOf_iff_prefix.mpr (List.prefix_append _ _)
  have halike : Reader.Alike { here := { byte := orderMark.length } } (.within .gap [] []) :=
    ⟨rfl, rfl, rfl⟩
  rw [records, if_pos hprefix, List.drop_left, ← halike.rows]
  rfl

theorem map_fields_records (h : ¬ orderMark <+: bs) :
    (records bs).map Record.fields = (Reader.within .gap [] []).rows bs := by
  rw [records, if_neg (mt List.isPrefixOf_iff_prefix.mp h)]
  rfl

/-! ## Fields that are texts -/

theorem textsFrom_map_encode (start : Position) (field : Nat) (row : List String) :
    Record.textsFrom start field (row.map Utf8.encode) = .ok row := by
  induction row generalizing field with
  | nil => rfl
  | cons cell row ih =>
    rw [List.map_cons, Record.textsFrom, Utf8.decodeText?_encode, ih]
    rfl

theorem mapM_texts {records : List Record}
    (h : records.map Record.fields = rows.map (List.map Utf8.encode)) :
    records.mapM Record.texts = .ok rows := by
  induction records generalizing rows with
  | nil =>
    rw [List.map_nil, eq_comm, List.map_eq_nil_iff] at h
    subst h
    rfl
  | cons record records ih =>
    cases rows with
    | nil => cases h
    | cons row rows =>
      obtain ⟨hrow, hrows⟩ := List.cons.inj h
      rw [List.mapM_cons, Record.texts, hrow, textsFrom_map_encode, ih hrows]
      rfl

end Csv

namespace Grid

open Csv Text

variable {rows : List (List String)} {text : String}

/-- The first cell of the first row does not begin with a byte order mark. -/
def Unmarked (rows : List (List String)) : Prop :=
  ∀ cell cells below, rows = (cell :: cells) :: below → ¬ IsMarked cell

theorem dropMark_of_not_marked {s : String} (h : ¬ IsMarked s) : dropMark s = s := by
  rw [dropMark]
  split
  · rename_i c cs hs
    rw [if_neg]
    rintro rfl
    exact h (congrArg List.head? hs)
  · rfl

theorem mapFirst_dropMark (h : Unmarked rows) : mapFirst dropMark rows = rows := by
  unfold mapFirst
  split
  · rename_i cell cells below
    rw [dropMark_of_not_marked (h cell cells below rfl)]
  · rfl

theorem ofCsv_eq_ok {bs : Bytes} (hmark : Unmarked rows)
    (h : (records bs).map Record.fields = rows.map (List.map Utf8.encode)) :
    ofCsv bs = .ok ⟨rows⟩ := by
  rw [ofCsv, mapM_texts h, Except.map, mapFirst_dropMark hmark]

/-- **A spreadsheet is read back as it was written.**  If each row has a cell and the first cell does
not begin with a byte order mark, then the table can be written, and from whatever text writes it, with
such a mark put before the text or without, the same table is read. -/
theorem ofCsv_of_writes (hne : ∀ row ∈ rows, row ≠ []) (hmark : Unmarked rows) :
    (∃ text, Writes rows text) ∧ ∀ text, Writes rows text →
      ofCsv (Utf8.encode text) = .ok ⟨rows⟩ ∧
        ofCsv (Utf8.encode ("\uFEFF" ++ text)) = .ok ⟨rows⟩ := by
  refine ⟨exists_writes hne, fun text hw => ⟨ofCsv_eq_ok hmark ?_, ofCsv_eq_ok hmark ?_⟩⟩
  · rw [map_fields_records, Reader.rows_writes hw]
    -- the mark would have to come from the first cell
    intro hprefix
    obtain ⟨cell, cells, below, hrows, hcell⟩ :=
      marked_of_writes hw (marked_of_orderMark hprefix)
    exact hmark cell cells below hrows hcell
  · have hbytes : Utf8.encode "\uFEFF" = orderMark := rfl
    rw [Utf8.encode_append, hbytes, map_fields_records_append, Reader.rows_writes hw]

/-- Rows of different lengths with empty cells, quotes, line ends and a mark inside. -/
theorem ofCsv_of_writes_ragged :
    let rows := [["", "a,\"b\"\r\n"], [""], ["\uFEFFx", " y", "é"]]
    let text := ",\"a,\"\"b\"\"\r\n\"\r\n\"\"\n\uFEFFx,\" y\",é\r\n"
    Writes rows text ∧ ofCsv (Utf8.encode text) = .ok ⟨rows⟩ ∧
      ofCsv (Utf8.encode ("\uFEFF" ++ text)) = .ok ⟨rows⟩ := by
  intro rows text
  have hw : Writes rows text :=
    .cons (.carriageReturn (.cons (.bare (by simp [IsPlain]) (by simp)) (.last .quoted)))
      (.cons (.lineFeed (.last .quoted))
        (.cons (.carriageReturn (.cons (.bare (by simp [IsPlain]) (by simp))
          (.cons .quoted (.last (.bare (by simp [IsPlain]) (by simp)))))) .nil))
  exact ⟨hw, (ofCsv_of_writes (by decide) (by simp [Unmarked, Text.IsMarked, rows])).2 text hw⟩

end Grid
end MetadataAudit
