/-! # Splitting and replacing

A text is split at every occurrence of a character, and occurrences of a piece of text are replaced
from left to right without overlap.
-/
namespace MetadataAudit
namespace Text

/-- The pieces between the occurrences of a character; one more than there are occurrences. -/
def splitChars (mark : Char) : List Char → List (List Char)
  | [] => [[]]
  | c :: cs =>
    if c = mark then [] :: splitChars mark cs
    else
      match splitChars mark cs with
      | piece :: pieces => (c :: piece) :: pieces
      | [] => [[c]]

theorem splitChars_ne_nil (mark : Char) (cs : List Char) : splitChars mark cs ≠ [] := by
  cases cs with
  | nil => simp [splitChars]
  | cons c cs =>
    rw [splitChars]
    split
    · simp
    · split <;> simp

/-- Texts on either side of the mark are split each by itself. -/
theorem splitChars_append (mark : Char) (before after : List Char) :
    splitChars mark (before ++ mark :: after) =
      splitChars mark before ++ splitChars mark after := by
  induction before with
  | nil => simp [splitChars]
  | cons c before ih =>
    rw [List.cons_append, splitChars, splitChars, ih]
    split
    · rfl
    · obtain ⟨piece, pieces, hpieces⟩ := List.exists_cons_of_ne_nil (splitChars_ne_nil mark before)
      rw [hpieces]
      rfl

/-- The pieces of a text between the occurrences of a character. -/
def split (mark : Char) (s : String) : List String :=
  (splitChars mark s.toList).map String.ofList

/-- The lines of a text. -/
def lines (s : String) : List String := split '\n' s

/-- Puts `new` in place of every occurrence of `old`, leftmost first. -/
def replaceChars (old new : List Char) (cs : List Char) : List Char :=
  match cs with
  | [] => []
  | c :: cs =>
    if old.isPrefixOf (c :: cs) ∧ old ≠ [] then
      new ++ replaceChars old new ((c :: cs).drop old.length)
    else c :: replaceChars old new cs
termination_by cs.length
decreasing_by
  · rename_i h
    have := List.length_pos_iff.mpr h.2
    simp only [List.length_drop, List.length_cons]
    omega
  · simp

/-- Puts `new` in place of every occurrence of `old` in a text. -/
def replace (s old new : String) : String :=
  String.ofList (replaceChars old.toList new.toList s.toList)

end Text
end MetadataAudit
