import MetadataAudit.Text.Utf8

/-! # Records of comma-separated values

Commas separate the fields of a record, and a carriage return, a line feed or both end it.  A field
that begins with a quote runs to the next lone quote; inside it a doubled quote stands for one, and
commas and line ends are text.  Lines without a byte are no records.  A record knows where its
reader stood when it began, before any empty lines were passed over.
-/
namespace MetadataAudit
namespace Csv

/-- How much has been read: records, line feeds counted from one, and bytes. -/
structure Position where
  record : Nat := 0
  line : Nat := 1
  byte : Nat := 0
deriving DecidableEq

/-- The fields of a record, and where it began. -/
structure Record where
  fields : List Bytes
  start : Position
deriving DecidableEq

/-- What the reader is inside of. -/
inductive Mode where
  /-- Between records. -/
  | gap
  /-- Between records, after a carriage return that a line feed may complete. -/
  | returned
  /-- Before the first byte of a field. -/
  | fieldStart
  /-- In a field that runs to the next comma or line end. -/
  | bare
  /-- Between quotes. -/
  | quoted
  /-- After a quote that ends the quoted part unless another one follows. -/
  | quoteSeen
deriving DecidableEq

/-- A record under way.  The bytes of the field and the fields before it stand last one first. -/
structure Reader where
  mode : Mode := .gap
  field : Bytes := []
  fields : List Bytes := []
  /-- Where the record began. -/
  start : Position := {}
  /-- Where the reader stands. -/
  here : Position := {}
deriving DecidableEq

def comma : UInt8 := 0x2C
def quote : UInt8 := 0x22
def lineFeed : UInt8 := 0x0A
def carriageReturn : UInt8 := 0x0D

/-- Whether a byte ends a record. -/
def isLineEnd (b : UInt8) : Bool := b == lineFeed || b == carriageReturn

/-- The position after one more byte. -/
def Position.advance (p : Position) (b : UInt8) : Position :=
  { p with line := if b = lineFeed then p.line + 1 else p.line, byte := p.byte + 1 }

namespace Reader

/-- The field goes on with a byte. -/
def push (r : Reader) (mode : Mode) (b : UInt8) : Reader :=
  { r with mode, field := b :: r.field }

/-- The field ends. -/
def endField (r : Reader) : Reader :=
  { r with mode := .fieldStart, field := [], fields := r.field.reverse :: r.fields }

/-- The record as far as it was read, its last field included. -/
def record (r : Reader) : Record :=
  ⟨(r.field.reverse :: r.fields).reverse, r.start⟩

/-- The record ends, and the next one begins here. -/
def endRecord (r : Reader) (b : UInt8) : Reader :=
  let here := { r.here with record := r.here.record + 1 }
  { mode := if b = carriageReturn then .returned else .gap, start := here, here }

/-- A byte of a field outside quotes, or one that ends it. -/
def plain (r : Reader) (b : UInt8) : Reader × Option Record :=
  if b = comma then (r.endField, none)
  else if isLineEnd b then (r.endRecord b, some r.record)
  else (r.push .bare b, none)

/-- The first byte of a field. -/
def first (r : Reader) (b : UInt8) : Reader × Option Record :=
  if b = quote then ({ r with mode := .quoted }, none) else r.plain b

/-- One byte, and the record that it ends. -/
def step (r : Reader) (b : UInt8) : Reader × Option Record :=
  let r := { r with here := r.here.advance b }
  match r.mode with
  | .gap => if isLineEnd b then (r, none) else r.first b
  | .returned =>
    if isLineEnd b then ({ r with mode := .gap }, none) else r.first b
  | .fieldStart => r.first b
  | .bare => r.plain b
  | .quoted => (if b = quote then { r with mode := .quoteSeen } else r.push .quoted b, none)
  | .quoteSeen => if b = quote then (r.push .quoted b, none) else r.plain b

/-- The record that the end of the text ends. -/
def finish (r : Reader) : List Record :=
  match r.mode with
  | .gap | .returned => []
  | _ => [r.record]

/-- The records that a reader finds in the rest of the text. -/
def run (r : Reader) : Bytes → List Record
  | [] => r.finish
  | b :: bs =>
    match r.step b with
    | (r, some record) => record :: r.run bs
    | (r, none) => r.run bs

@[simp] theorem run_nil (r : Reader) : r.run [] = r.finish := rfl

theorem run_cons (r : Reader) (b : UInt8) (bs : Bytes) :
    r.run (b :: bs) = (r.step b).2.toList ++ (r.step b).1.run bs := by
  rw [run]
  split <;> rename_i h <;> simp [h]

end Reader

/-- The bytes of the byte order mark. -/
def orderMark : Bytes := [0xEF, 0xBB, 0xBF]

/-- The records of a text.  One byte order mark in front of it is no part of the first field. -/
def records (bs : Bytes) : List Record :=
  if orderMark.isPrefixOf bs then
    ({ here := { byte := orderMark.length } } : Reader).run (bs.drop orderMark.length)
  else ({} : Reader).run bs

end Csv
end MetadataAudit
