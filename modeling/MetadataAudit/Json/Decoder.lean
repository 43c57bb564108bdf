import MetadataAudit.Dictionary
import MetadataAudit.Json.Reader
import MetadataAudit.Text.Decimal

/-! # Decoding JSON values

How a read value becomes a value of the program.  A record may be written with names, in any order
and with names that mean nothing, or as a list of its values in the order of their declaration.
-/
namespace MetadataAudit
namespace Parsed

/-- A Unicode text. -/
def text? : Parsed → Option String
  | .text s => some s
  | _ => none

/-- A natural number of at most 64 bits. -/
def natural? : Parsed → Option Nat
  | .natural n => if n ≤ Decimal.largest then some n else none
  | _ => none

/-- `true` or `false`. -/
def bool? : Parsed → Option Bool
  | .bool b => some b
  | _ => none

/-- A list whose items all decode. -/
def list? {α : Type} (decode : Parsed → Option α) : Parsed → Option (List α)
  | .list items => items.mapM decode
  | _ => none

/-- A set of texts; repeats are dropped. -/
def nameSet? (v : Parsed) : Option NameSet :=
  (v.list? text?).map NameSet.ofNames

/-- A record whose values all decode; of a repeated name the last value stays. -/
def dictionary? {α : Type} (decode : Parsed → Option α) : Parsed → Option (Dictionary α)
  | .record fields => do
    let entries ← fields.mapM fun (name, v) => do return (← name, ← decode v)
    return .ofList entries
  | _ => none

/-- The values of a record with the given field names.  Every name must be a text, and none of the
given ones may be repeated; a list gives the values in order and may leave out the last ones. -/
def fields? (names : List String) : Parsed → Option (List (String × Parsed))
  | .record fields => do
    let entries ← fields.mapM fun (name, v) => name.map (·, v)
    let known := entries.filter fun e => names.contains e.1
    if (known.map Prod.fst).Nodup then return known else none
  | .list items => if items.length ≤ names.length then some (names.zip items) else none
  | _ => none

/-- The value of a field that must be given. -/
def required {α : Type} (fields : List (String × Parsed)) (name : String)
    (decode : Parsed → Option α) : Option α :=
  fields.lookup name >>= decode

/-- The value of a field that may be left out. -/
def optional {α : Type} (fields : List (String × Parsed)) (name : String)
    (decode : Parsed → Option α) (default : α) : Option α :=
  match fields.lookup name with
  | some v => decode v
  | none => some default

end Parsed
end MetadataAudit
