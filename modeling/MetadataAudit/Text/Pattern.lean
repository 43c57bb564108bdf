import MetadataAudit.Text.Blank
import MetadataAudit.Text.Letters

/-! # Patterns

A pattern describes texts: characters and classes of characters one after another, alternatives,
and repetition.  A text matches as a whole.  Where a pattern leaves a choice the earlier way comes
first, and once a way has come to its end those behind it are given up.
-/
namespace MetadataAudit

/-- A class of characters. -/
inductive CharClass where
  | range (first last : Char)
  | digit | letter | blank
  | newline
  | complement (k : CharClass)
  | union (k l : CharClass)
deriving DecidableEq

namespace CharClass

/-- Whether a character is of the class. -/
def contains : CharClass → Char → Bool
  | range first last, c => first.toNat ≤ c.toNat && c.toNat ≤ last.toNat
  | digit, c => c.isDigit
  | letter, c => Text.isLetter c || c = '_'
  | blank, c => Text.isBlankChar c
  | newline, c => c = '\n'
  | complement k, c => !k.contains c
  | union k l, c => k.contains c || l.contains c

/-- The class of one character. -/
def only (c : Char) : CharClass := range c c

/-- The class with some characters added to it. -/
def adding (k : CharClass) (cs : List Char) : CharClass :=
  cs.foldl (fun k c => k.union (only c)) k

end CharClass

/-- A description of texts. -/
inductive Pattern where
  | empty
  /-- One character of a class. -/
  | one (k : CharClass)
  | followed (p q : Pattern)
  | either (p q : Pattern)
  /-- Any number of times: as often as possible if `greedy`, else as rarely as possible. -/
  | many (greedy : Bool) (p : Pattern)
  /-- The beginning and the end of the text. -/
  | atStart | atEnd
deriving DecidableEq

namespace Pattern

/-! ### Matching -/

/-- One pattern after another. -/
def andThen : Pattern → Pattern → Pattern
  | empty, q => q
  | p, q => followed p q

/-- The pattern of one text only. -/
def exactly (cs : List Char) : Pattern :=
  cs.foldr (fun c p => followed (one (.only c)) p) empty

/-- A pattern between the beginning and the end of the text. -/
def anchored (p : Pattern) : Pattern := followed atStart (p.andThen atEnd)

/-- The ways on from here, the preferred ones first: `none` where the pattern has come to its end,
else the next character's class and the pattern after it. -/
def ways (first last : Bool) : Pattern → List (Option (CharClass × Pattern))
  | empty => [none]
  | one k => [some (k, empty)]
  | followed p q => (ways first last p).flatMap fun way =>
      match way with
      | none => ways first last q
      | some (k, r) => [some (k, r.andThen q)]
  | either p q => ways first last p ++ ways first last q
  | many greedy p =>
    let on := (ways first last p).filterMap fun way =>
      way.map fun (k, r) => some (k, r.andThen (many greedy p))
    if greedy then on ++ [none] else none :: on
  | atStart => if first then [none] else []
  | atEnd => if last then [none] else []

/-- The patterns of what may follow a character, the preferred ones first. -/
def advance (first : Bool) (c : Char) (ps : List Pattern) : List Pattern :=
  ((((ps.flatMap (ways first false)).takeWhile Option.isSome).filterMap id).filterMap
    fun (k, r) => if k.contains c then some r else none).eraseDups

/-- Whether a list of characters matches one of some patterns. -/
def matchesAny (first : Bool) (ps : List Pattern) : List Char → Bool
  | [] => (ps.flatMap (ways first true)).any Option.isNone
  | c :: cs => matchesAny false (advance first c ps) cs

/-- Whether a text matches. -/
def accepts (p : Pattern) (s : String) : Bool := matchesAny true [p] s.toList

/-! ### Reading -/

/-- The class of a character behind a backslash. -/
def escaped? (c : Char) : Option CharClass :=
  match c with
  | 'd' => some .digit
  | 'D' => some (.complement .digit)
  | 'w' => some .letter
  | 'W' => some (.complement .letter)
  | 's' => some .blank
  | 'S' => some (.complement .blank)
  | 'n' => some (.only '\n')
  | 'r' => some (.only '\r')
  | 't' => some (.only '\t')
  | 'f' => some (.only '\x0c')
  | 'v' => some (.only '\x0b')
  | 'a' => some (.only '\x07')
  | c => if c.toNat < 0x80 && !c.isAlphanum && c ≠ '<' && c ≠ '>' then some (.only c) else none

/-- Reads the members of a class up to the bracket that closes it; `k` is what came before. -/
def classMembers? (k : Option CharClass) : List Char → Option (CharClass × List Char)
  | ']' :: cs =>
    match k with
    | some k => some (k, cs)
    | none => classMembers? (some (.only ']')) cs
  | '[' :: _ => none
  | '\\' :: c :: cs => do
    let l ← escaped? c
    classMembers? (some ((k.map fun k => .union k l).getD l)) cs
  | ['\\'] => none
  | c :: '-' :: ']' :: cs => do
    let k := (k.map fun k => .union k (.only c)).getD (.only c)
    some (.union k (.only '-'), cs)
  | c :: '-' :: d :: cs =>
    if d = '[' ∨ d = '\\' ∨ d.toNat < c.toNat then none
    else classMembers? (some ((k.map fun k => .union k (.range c d)).getD (.range c d))) cs
  | c :: cs => classMembers? (some ((k.map fun k => .union k (.only c)).getD (.only c))) cs
  | [] => none

/-- Reads a class behind its opening bracket. -/
def class? : List Char → Option (CharClass × List Char)
  | '^' :: cs => (classMembers? none cs).map fun (k, rest) => (.complement k, rest)
  | cs => classMembers? none cs

/-- Patterns one after another, the last one first, behind the alternatives before them. -/
def close (before : Option Pattern) (parts : List Pattern) : Pattern :=
  let p := parts.foldl (fun q p => p.andThen q) empty
  (before.map fun b => either b p).getD p

/-- A pattern that is repeated as a sign says. -/
def repeated (sign : Char) (greedy : Bool) (p : Pattern) : Pattern :=
  match sign with
  | '*' => many greedy p
  | '+' => followed p (many greedy p)
  | _ => if greedy then either p empty else either empty p

/-- Reads a pattern up to its end or to a closing parenthesis, behind some alternatives and some
parts of the present one; `fuel` bounds the number of steps. -/
def read? : Nat → Option Pattern → List Pattern → List Char → Option (Pattern × List Char)
  | 0, _, _, _ => none
  | fuel + 1, before, parts, cs =>
    match cs with
    | [] => some (close before parts, [])
    | ')' :: rest => some (close before parts, ')' :: rest)
    | '|' :: rest => read? fuel (some (close before parts)) [] rest
    | '(' :: '?' :: ':' :: rest => group? fuel before parts rest
    | '(' :: '?' :: _ => none
    | '(' :: rest => group? fuel before parts rest
    | '[' :: rest => class? rest >>= fun (k, rest) => read? fuel before (one k :: parts) rest
    | '\\' :: c :: rest => escaped? c >>= fun k => read? fuel before (one k :: parts) rest
    | ['\\'] => none
    | '\x7b' :: _ => none
    | '.' :: rest => read? fuel before (one (.complement .newline) :: parts) rest
    | '^' :: rest => read? fuel before (atStart :: parts) rest
    | '$' :: rest => read? fuel before (atEnd :: parts) rest
    | c :: rest =>
      if c = '*' ∨ c = '+' ∨ c = '?' then
        match parts with
        | [] => none
        | p :: parts =>
          if rest.head? = some '?' then
            read? fuel before (repeated c false p :: parts) (rest.drop 1)
          else read? fuel before (repeated c true p :: parts) rest
      else read? fuel before (one (.only c) :: parts) rest
where
  /-- Reads a group behind its opening parenthesis, and goes on. -/
  group? (fuel : Nat) (before : Option Pattern) (parts : List Pattern) (cs : List Char) :
      Option (Pattern × List Char) :=
    match read? fuel none [] cs with
    | some (p, ')' :: rest) => read? fuel before (p :: parts) rest
    | _ => none

/-- Reads a pattern. -/
def ofText? (s : String) : Option Pattern :=
  match read? (s.length + 1) none [] s.toList with
  | some (p, []) => some p
  | _ => none

end Pattern
end MetadataAudit
