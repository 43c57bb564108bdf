import MetadataAudit.Text.Decimal
import MetadataAudit.Timestamp.Basic

/-! # Writing timestamps

A timestamp is written with a fraction of no, three, six or nine digits, whichever is the first
that loses nothing.  Years of more than four digits, and years before the year 0, carry a sign.
-/
namespace MetadataAudit
namespace Timestamp

open Decimal (padded)

/-- A year: four digits, or a sign and at least four. -/
def yearText (year : Int) : String :=
  if 0 ≤ year ∧ year ≤ 9999 then padded 4 year.toNat
  else (if year < 0 then "-" else "+") ++ padded 4 year.natAbs

/-- The fraction of a second in the fewest groups of three digits. -/
def fractionText (nano : Nat) : String :=
  if nano = 0 then ""
  else if nano % 1000000 = 0 then "." ++ padded 3 (nano / 1000000)
  else if nano % 1000 = 0 then "." ++ padded 6 (nano / 1000)
  else "." ++ padded 9 nano

/-- Date and time without the zone. -/
def base (t : Timestamp) : String :=
  yearText t.date.year ++ "-" ++ padded 2 t.date.month ++ "-" ++ padded 2 t.date.day ++ "T" ++
    padded 2 t.hour ++ ":" ++ padded 2 t.minute ++ ":" ++ padded 2 t.second ++ fractionText t.nano

/-- The form that documents hold. -/
def text (t : Timestamp) : String := t.base ++ "Z"

/-- The form that people are shown. -/
def display (t : Timestamp) : String := t.base ++ "+00:00"

end Timestamp
end MetadataAudit
