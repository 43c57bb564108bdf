import MetadataAudit.Check.Basic

/-! # Item sequences

The place of an item in its parent is a positive integer of at most 64 bits with sign.  Only pages
must have one.
-/
namespace MetadataAudit
namespace Sequence

/-- Why a text is no integer of 64 bits. -/
inductive NotInteger where
  | invalidDigit
  | tooLarge
  | tooSmall
deriving DecidableEq

namespace NotInteger

/-- The reason in words. -/
def text : NotInteger → String
  | invalidDigit => "invalid digit found in string"
  | tooLarge => "number too large to fit in target type"
  | tooSmall => "number too small to fit in target type"

end NotInteger

/-- Reads digits onto `value`, which must not get past `limit`.  The first fault from the left
decides. -/
def magnitude (limit : Nat) (tooFar : NotInteger) (value : Nat) :
    List Char → Except NotInteger Nat
  | [] => .ok value
  | c :: cs =>
    if c.isDigit then
      let value := value * 10 + (c.toNat - 48)
      if limit < value then .error tooFar else magnitude limit tooFar value cs
    else .error .invalidDigit

/-- The digits after a sign, of which there must be one. -/
def digits (limit : Nat) (tooFar : NotInteger) (cs : List Char) : Except NotInteger Nat :=
  if cs.isEmpty then .error .invalidDigit else magnitude limit tooFar 0 cs

/-- The largest integer of 64 bits with sign; there is one more below zero. -/
def largest : Nat := 0x7FFFFFFFFFFFFFFF

/-- Reads an integer of 64 bits: a sign if need be, and digits. -/
def integer (cs : List Char) : Except NotInteger Int :=
  match cs with
  | '-' :: rest => (digits (largest + 1) .tooSmall rest).map fun n => -(n : Int)
  | '+' :: rest => (digits largest .tooLarge rest).map fun n => (n : Int)
  | cs => (digits largest .tooLarge cs).map fun n => (n : Int)

/-- Whether the row of a location describes a page; a row without object type does not. -/
def isPage (profile : String) (l : Location) (g : Grid) : Bool :=
  match g.rowValue l profile Field.objectType with
  | .ok objectType => objectType = "Page"
  | .error _ => false

/-- A sequence is a positive integer; it may be left out outside of pages. -/
def check (profile : String) (l : Location) (g : Grid) : Outcome :=
  Check.onField [Field.itemSequence] profile l g fun value =>
    if value = "" then
      if isPage profile l g then .reject .pageWithoutSequence l profile else .clean
    else
      match integer value.toList with
      | .ok n => if 0 < n then .clean else .reject .sequenceNotPositive l profile
      | .error e =>
        .violation ((Violation.ofProblem .sequenceNotInteger l profile).causedByText e.text)

end Sequence
end MetadataAudit
