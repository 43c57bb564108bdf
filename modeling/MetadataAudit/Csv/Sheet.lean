import MetadataAudit.Csv.Record
import MetadataAudit.FileTree.Basic
import MetadataAudit.Grid

/-! # Spreadsheets

A spreadsheet becomes a grid when all its fields are text.  Every record is a row of the grid, the
first one included.  A byte order mark may stand before the text, and another one at the start of
the first cell; neither is part of the grid.
-/
namespace MetadataAudit

/-- Why a spreadsheet could not be read. -/
inductive SheetError where
  | notOpened (path : Path) (cause : OsError)
  | notRead (path : Path) (cause : OsError)
  /-- A field is no text from the byte at `offset` on. -/
  | notText (start : Csv.Position) (field offset : Nat)
  /-- What is wrong with the content of a file. -/
  | inFile (path : Path) (error : SheetError)
deriving DecidableEq

namespace SheetError

/-- What went wrong, in words. -/
def message : SheetError → String
  | .notOpened path cause => s!"open {path}: {cause.text}"
  | .notRead path cause => s!"parse {path}: read record 0: {cause.text}"
  | .notText start field offset =>
    s!"read record {start.record}: CSV parse error: record {start.record} " ++
      s!"(line {start.line}, field: {field}, byte: {start.byte}): " ++
      s!"invalid utf-8: invalid UTF-8 in field {field} near byte index {offset}"
  | .inFile path error => s!"parse {path}: {error.message}"

end SheetError

namespace Csv.Record

/-- The texts of a record's fields, counted from `field`. -/
def textsFrom (start : Position) (field : Nat) : List Bytes → Except SheetError (List String)
  | [] => .ok []
  | bs :: rest =>
    match Utf8.decodeText? bs with
    | none => .error (.notText start field (Utf8.validLength bs))
    | some s => (textsFrom start (field + 1) rest).map (s :: ·)

/-- The texts of a record's fields. -/
def texts (r : Record) : Except SheetError (List String) :=
  textsFrom r.start 0 r.fields

end Csv.Record

namespace Grid

/-- A text without the byte order mark in front. -/
def dropMark (s : String) : String :=
  match s.toList with
  | c :: cs => if c = '\uFEFF' then String.ofList cs else s
  | [] => s

/-- Changes the first cell of the first row. -/
def mapFirst (f : String → String) : List (List String) → List (List String)
  | (cell :: row) :: rows => (f cell :: row) :: rows
  | rows => rows

/-- The grid that comma-separated values describe. -/
def ofCsv (content : Bytes) : Except SheetError Grid :=
  ((Csv.records content).mapM Csv.Record.texts).map fun rows => ⟨mapFirst dropMark rows⟩

/-- Reads the grid in a file. -/
def load (t : FileTree) (path : Path) : Except SheetError Grid :=
  match t.find path with
  | .error e => .error (.notOpened path e)
  | .ok .directory => .error (.notRead path .isDirectory)
  | .ok (.file content) => (ofCsv content).mapError (.inFile path)

end Grid
end MetadataAudit
