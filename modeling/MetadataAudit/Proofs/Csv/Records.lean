import MetadataAudit.Csv.Record
import MetadataAudit.Proofs.Text.Utf8

/-! # Records written and read again

A table can be written in many ways: each cell with quotes around it or, if it holds nothing that
would be taken for something else, without, and each row with either line end (`Csv.Writes`).  The
reader is followed through such a text piece by piece.  Where it stands in the text matters for errors
only, so it is left out (`Csv.Reader.rows`), and a table is read back from the bytes of every text that
writes it (`Csv.Reader.rows_writes`).
-/
namespace MetadataAudit

namespace Csv

/-! ## Tables in writing -/

/-- A character that means nothing but itself. -/
def IsPlain (c : Char) : Prop := c ≠ ',' ∧ c ≠ '\"' ∧ c ≠ '\r' ∧ c ≠ '\n'

instance (c : Char) : Decidable (IsPlain c) := inferInstanceAs (Decidable (_ ∧ _))

/-- A character between quotes, where a quote is written twice. -/
def doubled (c : Char) : List Char := if c = '\"' then ['\"', '\"'] else [c]

/-- The ways to write a cell.  A bare cell holds plain characters only, and one at least if it is
`alone` in its row, since an empty line is no row. -/
inductive WritesCell (alone : Prop) (cell : String) : String → Prop where
  | bare (hplain : ∀ c ∈ cell.toList, IsPlain c) (hsome : alone → cell ≠ "") :
    WritesCell alone cell cell
  | quoted : WritesCell alone cell (String.ofList ('\"' :: cell.toList.flatMap doubled ++ ['\"']))

/-- The ways to write cells with commas between them, of which there is one at least. -/
inductive WritesCells (alone : Prop) : List String → String → Prop where
  | last {cell piece : String} (hcell : WritesCell alone cell piece) :
    WritesCells alone [cell] piece
  | cons {cell piece text : String} {cells : List String} (hcell : WritesCell alone cell piece)
      (hcells : WritesCells alone cells text) :
    WritesCells alone (cell :: cells) (piece ++ "," ++ text)

/-- The ways to write a row. -/
inductive WritesRow (row : List String) : String → Prop where
  | lineFeed {text : String} (hcells : WritesCells (row.length = 1) row text) :
    WritesRow row (text ++ "\n")
  | carriageReturn {text : String} (hcells : WritesCells (row.length = 1) row text) :
    WritesRow row (text ++ "\r\n")

/-- The ways to write a table, row by row. -/
inductive Writes : List (List String) → String → Prop where
  | nil : Writes [] ""
  | cons {row : List String} {rows : List (List String)} {line text : String}
      (hrow : WritesRow row line) (hrows : Writes rows text) : Writes (row :: rows) (line ++ text)

/-! ## Readers without their position -/

/-- A field may begin here. -/
def Mode.Opens (mode : Mode) : Prop := mode = .gap ∨ mode = .fieldStart

/-- A field ends here if its record ends. -/
def Mode.Closes (mode : Mode) : Prop := mode = .fieldStart ∨ mode = .bare ∨ mode = .quoteSeen

/-- How a reader goes on after a line end. -/
def Mode.behind (b : UInt8) : Mode := if b = carriageReturn then .returned else .gap

namespace Reader

/-- The fields of the records that a reader finds in the rest of the text. -/
def rows (r : Reader) (bs : Bytes) : List (List Bytes) := (r.run bs).map Record.fields

/-- A reader inside of something; where it stands in the text is left open. -/
def within (mode : Mode) (field : Bytes) (fields : List Bytes) : Reader := { mode, field, fields }

/-- Readers inside of the same thing, wherever they stand. -/
structure Alike (r r' : Reader) : Prop where
  mode : r.mode = r'.mode
  field : r.field = r'.field
  fields : r.fields = r'.fields

variable {r r' : Reader} {mode : Mode} {field : Bytes} {fields : List Bytes} {b : UInt8}
  {bs rest : Bytes}

theorem rows_cons (r : Reader) (b : UInt8) (bs : Bytes) :
    r.rows (b :: bs) = (r.step b).2.toList.map Record.fields ++ (r.step b).1.rows bs := by
  rw [rows, run_cons, List.map_append, rows]

theorem Alike.fields_record (h : Alike r r') : r.record.fields = r'.record.fields := by
  rw [record, record, h.field, h.fields]

theorem Alike.plain (h : Alike r r') (b : UInt8) :
    Alike (r.plain b).1 (r'.plain b).1 ∧
      (r.plain b).2.map Record.fields = (r'.plain b).2.map Record.fields := by
  unfold Reader.plain
  split
  · exact ⟨⟨rfl, rfl, by rw [endField, endField, h.field, h.fields]⟩, rfl⟩
  · split
    · exact ⟨⟨rfl, rfl, rfl⟩, congrArg some h.fields_record⟩
    · exact ⟨⟨rfl, by rw [push, push, h.field], h.fields⟩, rfl⟩

theorem Alike.first (h : Alike r r') (b : UInt8) :
    Alike (r.first b).1 (r'.first b).1 ∧
      (r.first b).2.map Record.fields = (r'.first b).2.map Record.fields := by
  unfold Reader.first
  split
  · exact ⟨⟨rfl, h.field, h.fields⟩, rfl⟩
  · exact h.plain b

theorem Alike.step (h : Alike r r') (b : UInt8) :
    Alike (r.step b).1 (r'.step b).1 ∧
      (r.step b).2.map Record.fields = (r'.step b).2.map Record.fields := by
  -- both have the byte behind them, which changes where they stand only
  have hnext : Alike { r with here := r.here.advance b } { r' with here := r'.here.advance b } :=
    ⟨h.mode, h.field, h.fields⟩
  unfold Reader.step
  dsimp only
  rw [← h.mode]
  split
  · split
    · exact ⟨⟨rfl, h.field, h.fields⟩, rfl⟩
    · exact hnext.first b
  · split
    · exact ⟨⟨rfl, h.field, h.fields⟩, rfl⟩
    · exact hnext.first b
  · exact hnext.first b
  · exact hnext.plain b
  · split
    · exact ⟨⟨rfl, h.field, h.fields⟩, rfl⟩
    · exact ⟨⟨rfl, congrArg (b :: ·) h.field, h.fields⟩, rfl⟩
  · split
    · exact ⟨⟨rfl, congrArg (b :: ·) h.field, h.fields⟩, rfl⟩
    · exact hnext.plain b

/-- **Where a reader stands does not matter** for the fields that it finds. -/
theorem Alike.rows (h : Alike r r') (bs : Bytes) : r.rows bs = r'.rows bs := by
  induction bs generalizing r r' with
  | nil =>
    rw [Reader.rows, Reader.rows, run_nil, run_nil, finish, finish, ← h.mode]
    split
    · rfl
    · rfl
    · exact congrArg (fun fields => [fields]) h.fields_record
  | cons b bs ih =>
    obtain ⟨halike, hrecord⟩ := h.step b
    rw [rows_cons, rows_cons, ih halike, ← Option.toList_map, ← Option.toList_map, hrecord]

/-! ## Single bytes -/

theorem plain_of_ne (hcomma : b ≠ comma) (hend : isLineEnd b = false) (r : Reader) :
    r.plain b = (r.push .bare b, none) := by
  rw [plain, if_neg hcomma, if_neg (by simp [hend])]

theorem plain_of_lineEnd (hend : isLineEnd b = true) (r : Reader) :
    r.plain b = (r.endRecord b, some r.record) := by
  have hcomma : b ≠ comma := by
    rintro rfl
    exact absurd hend (by decide)
  rw [plain, if_neg hcomma, if_pos hend]

theorem rows_step {next : Reader} (hstep : r.step b = (next, none)) (h : Alike next r') :
    r.rows (b :: bs) = r'.rows bs := by
  rw [rows_cons, hstep, h.rows]
  rfl

theorem rows_step_record {next : Reader} {record : Record}
    (hstep : r.step b = (next, some record)) (h : Alike next r') :
    r.rows (b :: bs) = record.fields :: r'.rows bs := by
  rw [rows_cons, hstep, h.rows]
  rfl

/-- A field outside quotes goes on. -/
theorem rows_bare (hcomma : b ≠ comma) (hend : isLineEnd b = false) :
    (within .bare field fields).rows (b :: bs) = (within .bare (b :: field) fields).rows bs :=
  rows_step (plain_of_ne hcomma hend _) ⟨rfl, rfl, rfl⟩

theorem step_of_opens (hmode : mode.Opens) (hend : isLineEnd b = false) :
    (within mode field fields).step b =
      ({ within mode field fields with here := ({} : Position).advance b } : Reader).first b := by
  rcases hmode with rfl | rfl
  · exact if_neg (by simp [hend])
  · rfl

/-- A field begins without a quote. -/
theorem rows_first (hmode : mode.Opens) (hquote : b ≠ quote) (hcomma : b ≠ comma)
    (hend : isLineEnd b = false) :
    (within mode field fields).rows (b :: bs) = (within .bare (b :: field) fields).rows bs :=
  rows_step ((step_of_opens hmode hend).trans
    ((if_neg hquote).trans (plain_of_ne hcomma hend _))) ⟨rfl, rfl, rfl⟩

/-- A field begins with a quote. -/
theorem rows_quote (hmode : mode.Opens) :
    (within mode field fields).rows (quote :: bs) = (within .quoted field fields).rows bs :=
  rows_step (step_of_opens hmode rfl) ⟨rfl, rfl, rfl⟩

/-- A field between quotes goes on. -/
theorem rows_quoted (hquote : b ≠ quote) :
    (within .quoted field fields).rows (b :: bs) = (within .quoted (b :: field) fields).rows bs :=
  rows_step (Prod.ext (if_neg hquote) rfl) ⟨rfl, rfl, rfl⟩

/-- The quotes around a field may end. -/
theorem rows_quoteSeen :
    (within .quoted field fields).rows (quote :: bs) = (within .quoteSeen field fields).rows bs :=
  rows_step rfl ⟨rfl, rfl, rfl⟩

/-- They have not ended if another quote follows. -/
theorem rows_quoteAgain :
    (within .quoteSeen field fields).rows (quote :: bs) =
      (within .quoted (quote :: field) fields).rows bs :=
  rows_step rfl ⟨rfl, rfl, rfl⟩

/-- A comma ends a field. -/
theorem rows_comma (hmode : mode ≠ .quoted) :
    (within mode field fields).rows (comma :: bs) =
      (within .fieldStart [] (field.reverse :: fields)).rows bs := by
  cases mode with
  | quoted => exact absurd rfl hmode
  | _ => exact rows_step rfl ⟨rfl, rfl, rfl⟩

/-- A line end ends a record. -/
theorem rows_lineEnd (hmode : mode.Closes) (hend : isLineEnd b = true) :
    (within mode field fields).rows (b :: bs) =
      (field.reverse :: fields).reverse :: (within (.behind b) [] []).rows bs := by
  have hquote : b ≠ quote := by
    rintro rfl
    exact absurd hend (by decide)
  have hstep : (within mode field fields).step b =
      ({ within mode field fields with here := ({} : Position).advance b } : Reader).plain b := by
    rcases hmode with rfl | rfl | rfl
    · exact if_neg hquote
    · rfl
    · exact if_neg hquote
  exact rows_step_record (hstep.trans (plain_of_lineEnd hend _)) ⟨rfl, rfl, rfl⟩

/-- A line feed goes with the carriage return before it. -/
theorem rows_returned :
    (within .returned field fields).rows (lineFeed :: bs) = (within .gap field fields).rows bs :=
  rows_step rfl ⟨rfl, rfl, rfl⟩

/-! ## Cells -/

/-- Plain bytes outside quotes. -/
theorem rows_bare_append (hbs : ∀ b ∈ bs, b ≠ comma ∧ isLineEnd b = false) (rest : Bytes) :
    (within .bare field fields).rows (bs ++ rest) =
      (within .bare (bs.reverse ++ field) fields).rows rest := by
  induction bs generalizing field with
  | nil => rfl
  | cons b bs ih =>
    rw [List.forall_mem_cons] at hbs
    rw [List.cons_append, rows_bare hbs.1.1 hbs.1.2, ih hbs.2, List.reverse_cons, List.append_assoc]
    rfl

/-- Bytes other than quotes, between quotes. -/
theorem rows_quoted_append (hbs : ∀ b ∈ bs, b ≠ quote) (rest : Bytes) :
    (within .quoted field fields).rows (bs ++ rest) =
      (within .quoted (bs.reverse ++ field) fields).rows rest := by
  induction bs generalizing field with
  | nil => rfl
  | cons b bs ih =>
    rw [List.forall_mem_cons] at hbs
    rw [List.cons_append, rows_quoted hbs.1, ih hbs.2, List.reverse_cons, List.append_assoc]
    rfl

theorem ne_of_mem_encodeChar {c : Char} {mark : UInt8} (hmark : mark < 0x80)
    (hc : c.toNat ≠ mark.toNat) : ∀ b ∈ String.utf8EncodeChar c, b ≠ mark := by
  rintro b hb rfl
  exact hc (Utf8.toNat_of_mem_encodeChar hmark hb)

/-- The bytes of plain characters mean nothing but themselves. -/
theorem plain_of_mem_encode {s : String} (hs : ∀ c ∈ s.toList, IsPlain c) :
    ∀ b ∈ Utf8.encode s, b ≠ quote ∧ b ≠ comma ∧ isLineEnd b = false := by
  intro b hb
  obtain ⟨c, hc, hbc⟩ := List.mem_flatMap.mp hb
  have hne {mark : Char} (hmark : c ≠ mark) : c.toNat ≠ mark.toNat := mt Char.toNat_inj.mp hmark
  have hplain := hs c hc
  refine ⟨ne_of_mem_encodeChar (by decide) (hne hplain.2.1) b hbc,
    ne_of_mem_encodeChar (by decide) (hne hplain.1) b hbc, ?_⟩
  have hfeed : b ≠ lineFeed := ne_of_mem_encodeChar (by decide) (hne hplain.2.2.2) b hbc
  have hreturn : b ≠ carriageReturn := ne_of_mem_encodeChar (by decide) (hne hplain.2.2.1) b hbc
  simp [isLineEnd, hfeed, hreturn]

/-- A character between quotes, as it is written there. -/
theorem rows_doubled (c : Char) (rest : Bytes) :
    (within .quoted field fields).rows ((doubled c).flatMap String.utf8EncodeChar ++ rest) =
      (within .quoted ((String.utf8EncodeChar c).reverse ++ field) fields).rows rest := by
  rw [doubled]
  split
  · rename_i hc
    subst hc
    exact rows_quoteSeen.trans rows_quoteAgain
  · rename_i hc
    rw [List.flatMap_singleton]
    refine rows_quoted_append (ne_of_mem_encodeChar (by decide) fun h => hc ?_) rest
    exact Char.toNat_inj.mp h

theorem rows_doubled_append (cs : List Char) (rest : Bytes) :
    (within .quoted field fields).rows
        ((cs.flatMap doubled).flatMap String.utf8EncodeChar ++ rest) =
      (within .quoted ((cs.flatMap String.utf8EncodeChar).reverse ++ field) fields).rows rest := by
  induction cs generalizing field with
  | nil => rfl
  | cons c cs ih =>
    rw [List.flatMap_cons, List.flatMap_append, List.append_assoc, rows_doubled, ih,
      List.flatMap_cons, List.reverse_append, List.append_assoc]

/-- **A written cell is read** up to where it ends.  A bare cell without characters leaves the reader
where it was, which does not happen to a cell that is alone. -/
theorem exists_rows_cell {alone : Prop} {cell piece : String} (hw : WritesCell alone cell piece)
    (hmode : mode.Opens) :
    ∃ mode', mode' ≠ .quoted ∧ (mode'.Closes ∨ mode' = mode ∧ ¬ alone) ∧
      ∀ rest, (within mode [] fields).rows (Utf8.encode piece ++ rest) =
        (within mode' (Utf8.encode cell).reverse fields).rows rest := by
  cases hw with
  | bare hplain hsome =>
    have hbytes := plain_of_mem_encode hplain
    cases hcell : Utf8.encode cell with
    | nil =>
      have hempty : cell = "" := Utf8.encode_inj.mp hcell
      refine ⟨mode, ?_, Or.inr ⟨rfl, fun halone => hsome halone hempty⟩, fun rest => rfl⟩
      rcases hmode with rfl | rfl <;> exact nofun
    | cons b bs =>
      rw [hcell, List.forall_mem_cons] at hbytes
      obtain ⟨⟨hquote, hcomma, hend⟩, hrest⟩ := hbytes
      refine ⟨.bare, nofun, Or.inl (Or.inr (Or.inl rfl)), fun rest => ?_⟩
      rw [List.cons_append, rows_first hmode hquote hcomma hend,
        rows_bare_append (fun b hb => (hrest b hb).2), List.reverse_cons]
  | quoted =>
    refine ⟨.quoteSeen, nofun, Or.inl (Or.inr (Or.inr rfl)), fun rest => ?_⟩
    have hpiece : Utf8.encode (String.ofList ('\"' :: cell.toList.flatMap doubled ++ ['\"'])) ++ rest =
        quote :: ((cell.toList.flatMap doubled).flatMap String.utf8EncodeChar ++ quote :: rest) := by
      rw [Utf8.encode_ofList, List.cons_append, List.flatMap_cons, List.flatMap_append]
      simp only [List.append_assoc]
      rfl
    rw [hpiece, rows_quote hmode, rows_doubled_append, rows_quoteSeen, List.append_nil]
    rfl

/-! ## Rows -/

/-- **Written cells are read** up to the line end behind them, as one record. -/
theorem rows_cells {alone : Prop} {cells : List String} {text : String}
    (hw : WritesCells alone cells text) (hmode : mode.Opens)
    (halone : mode = .gap → cells.length = 1 → alone) (hend : isLineEnd b = true) :
    (within mode [] fields).rows (Utf8.encode text ++ b :: rest) =
      (fields.reverse ++ cells.map Utf8.encode) :: (within (.behind b) [] []).rows rest := by
  induction hw generalizing mode fields with
  | @last cell piece hcell =>
    obtain ⟨mode', -, hclose, hread⟩ := exists_rows_cell hcell hmode
    have hcloses : mode'.Closes := by
      rcases hclose with hclose | ⟨rfl, hnot⟩
      · exact hclose
      · rcases hmode with rfl | rfl
        · exact absurd (halone rfl rfl) hnot
        · exact Or.inl rfl
    rw [hread, rows_lineEnd hcloses hend, List.reverse_reverse, List.reverse_cons]
    rfl
  | @cons cell piece text cells hcell hcells ih =>
    obtain ⟨mode', hquoted, -, hread⟩ := exists_rows_cell hcell hmode
    have hcomma : Utf8.encode "," = [comma] := rfl
    rw [Utf8.encode_append, Utf8.encode_append, hcomma, List.append_assoc, List.append_assoc, hread,
      List.singleton_append, rows_comma hquoted, List.reverse_reverse, ih (Or.inr rfl) nofun,
      List.reverse_cons, List.append_assoc]
    rfl

/-- **A written row is read**, whatever follows it. -/
theorem rows_row {row : List String} {line : String} (hw : WritesRow row line) (rest : Bytes) :
    (within .gap [] []).rows (Utf8.encode line ++ rest) =
      row.map Utf8.encode :: (within .gap [] []).rows rest := by
  cases hw with
  | lineFeed hcells =>
    have hfeed : Utf8.encode "\n" = [lineFeed] := rfl
    rw [Utf8.encode_append, hfeed, List.append_assoc, List.singleton_append,
      rows_cells hcells (Or.inl rfl) (fun _ h => h) rfl]
    rfl
  | carriageReturn hcells =>
    have hends : Utf8.encode "\r\n" = [Csv.carriageReturn, lineFeed] := rfl
    rw [Utf8.encode_append, hends, List.append_assoc, List.cons_append, List.singleton_append,
      rows_cells hcells (Or.inl rfl) (fun _ h => h) rfl]
    exact congrArg _ rows_returned

/-- **A written table is read.** -/
theorem rows_writes {table : List (List String)} {text : String} (hw : Writes table text) :
    (within .gap [] []).rows (Utf8.encode text) = table.map (List.map Utf8.encode) := by
  induction hw with
  | nil => rfl
  | cons hrow _ ih => rw [Utf8.encode_append, rows_row hrow, ih, List.map_cons]

end Reader
end Csv
end MetadataAudit
