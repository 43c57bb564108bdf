import MetadataAudit.Text.Cluster
import MetadataAudit.Text.Width

/-! # Styled texts

A text may hold escape codes, which tell a terminal how to show what follows.  A code takes no
columns and is not divided.  Where a text is divided, the codes in force are reset at the end of one
part and given again at the beginning of the next one.
-/
namespace MetadataAudit
namespace Styled

/-- A part of a styled text. -/
inductive Piece where
  | code (cs : List Char)
  | plain (cs : List Char)
deriving DecidableEq

namespace Piece

/-- The characters of a piece. -/
def chars : Piece → List Char
  | code cs | plain cs => cs

/-- What is seen of a piece. -/
def seen : Piece → List Char
  | code _ => []
  | plain cs => cs

end Piece

/-- The character that begins a code. -/
def escape : Char := '\x1b'

/-- The code that ends the effect of all others. -/
def reset : List Char := escape :: "[0m".toList

/-- Whether a code may end with a character. -/
def isFinal (c : Char) : Bool :=
  ('A' ≤ c && c ≤ 'P') || ('f' ≤ c && c ≤ 'n') || "RZcqry<=>".toList.contains c

/-- How many of these characters make up a code with the escape character before them: brackets and
the like, then numbers between semicolons, and a final character. -/
def codeLength? (cs : List Char) : Option Nat :=
  let opening := cs.takeWhile fun c => "[()#;?".toList.contains c
  let behind := cs.drop opening.length
  let numbers := behind.takeWhile fun c => c.isDigit || c = ';'
  if (behind.drop numbers.length).head?.any isFinal then some (opening.length + numbers.length + 1)
  else none

/-- The codes of a text and what stands between them. -/
def pieces : List Char → List Piece
  | [] => []
  | c :: cs =>
    match if c = escape then codeLength? cs else none with
    | some n => .code (c :: cs.take n) :: pieces (cs.drop n)
    | none =>
      match pieces cs with
      | .plain p :: ps => .plain (c :: p) :: ps
      | ps => .plain [c] :: ps
termination_by cs => cs.length
decreasing_by all_goals simp +arith

/-- The pieces of a text lose nothing of it. -/
theorem flatMap_pieces (cs : List Char) : (pieces cs).flatMap Piece.chars = cs := by
  fun_induction pieces cs with
  | case1 => rfl
  | case2 c cs n _ ih => simp [Piece.chars, ih]
  | case3 c cs _ p ps h ih => simpa [h, Piece.chars] using ih
  | case4 c cs _ _ ih => simp [Piece.chars, ih]

/-- The columns of a text. -/
def width (cs : List Char) : Nat := Text.width ((pieces cs).flatMap Piece.seen)

/-- The codes in force, one after another. -/
abbrev Style := List (List Char)

namespace Style

/-- The style after a further piece. -/
def push (s : Style) : Piece → Style
  | .code cs => if cs = reset then [] else s ++ [cs]
  | .plain _ => s

/-- What ends a style. -/
def closing (s : Style) : List Char := if s.isEmpty then [] else reset

end Style

/-- The parts of a text that begins in some style, each with the codes in force at its beginning and
without effect beyond its end. -/
def selfContained (s : Style) : List (List Char) → List (List Char)
  | [] => []
  | part :: parts =>
    let after := (pieces part).foldl Style.push s
    (s.flatten ++ part ++ after.closing) :: selfContained after parts

/-- The longest start of some pieces that fits into `room` columns, and the rest.  The style is
`shown` behind the last character and `now` behind the codes that wait for the next one. -/
def splitAtWidth (room : Nat) (shown now : Style) (waiting : List Char) :
    List Piece → List Char × List Char
  | [] => (waiting, [])
  | .code cs :: ps => splitAtWidth room shown (now.push (.code cs)) (waiting ++ cs) ps
  | .plain cs :: ps =>
    if Text.width cs ≤ room then
      let (head, tail) := splitAtWidth (room - Text.width cs) now now [] ps
      (waiting ++ cs ++ head, tail)
    else
      let (head, rest) := Text.splitAtWidth room (Text.clusters cs)
      let tail := now.flatten ++ rest ++ ps.flatMap Piece.chars
      if head.isEmpty then (shown.closing, tail) else (waiting ++ head ++ now.closing, tail)

end Styled
end MetadataAudit
