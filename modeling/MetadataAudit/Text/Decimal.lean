/-! # Decimal digits

Natural numbers as lists of decimal digits, and filled up with zeros to a fixed width.  Reading
back what was written gives the number, however wide it was made (`value_padded`).
-/
namespace MetadataAudit
namespace Decimal

/-- The value of a list of digits. -/
def value (digits : List Char) : Nat :=
  digits.foldl (fun n c => n * 10 + (c.toNat - 48)) 0

/-- The digits of a number, filled up with zeros to `width`. -/
def padded (width n : Nat) : String :=
  let digits := (Nat.repr n).toList
  String.ofList (List.replicate (width - digits.length) '0' ++ digits)

/-- The largest number of 64 bits. -/
def largest : Nat := 0xFFFFFFFFFFFFFFFF

/-- Whether some characters are digits, of which there is one at least. -/
def isDigits (cs : List Char) : Bool := !cs.isEmpty && cs.all Char.isDigit

/-- The number that a text of digits stands for, perhaps with a plus sign, if it has at most 64
bits. -/
def natural? (s : String) : Option Nat :=
  let digits := match s.toList with
    | '+' :: cs => cs
    | cs => cs
  if isDigits digits ∧ value digits ≤ largest then some (value digits) else none

/-- The characters behind a sign, if there is one. -/
def unsigned : List Char → List Char
  | '+' :: cs | '-' :: cs => cs
  | cs => cs

/-- Whether some characters are digits with or without a point among them. -/
def isMantissa (cs : List Char) : Bool :=
  let fraction := (cs.dropWhile (· ≠ '.')).drop 1
  let whole := cs.takeWhile (· ≠ '.')
  (whole ++ fraction).all Char.isDigit && !(whole ++ fraction).isEmpty

/-- Whether a text is a number of any kind: with a sign, a fraction or an exponent, or a word for
what is beyond all numbers. -/
def isNumeral (s : String) : Bool :=
  let cs := (unsigned s.toList).map Char.toLower
  let mantissa := cs.takeWhile (· ≠ 'e')
  cs = "inf".toList || cs = "infinity".toList || cs = "nan".toList ||
    (isMantissa mantissa &&
      (mantissa.length = cs.length || isDigits (unsigned (cs.drop (mantissa.length + 1)))))

theorem value_replicate_append (k : Nat) (digits : List Char) :
    value (List.replicate k '0' ++ digits) = value digits := by
  induction k with
  | zero => rfl
  | succ k ih => simpa [value, List.replicate_succ] using ih

theorem value_eq_ofDigitChars (digits : List Char) :
    value digits = Nat.ofDigitChars 10 digits 0 := by
  simp only [value, Nat.ofDigitChars, Nat.mul_comm]
  rfl

theorem value_repr (n : Nat) : value (Nat.repr n).toList = n := by
  simp [value_eq_ofDigitChars, Nat.repr, Nat.ofDigitChars_toDigits]

/-- Zeros in front do not change the value. -/
theorem value_padded (width n : Nat) : value (padded width n).toList = n := by
  rw [padded, String.toList_ofList, value_replicate_append, value_repr]

end Decimal
end MetadataAudit
