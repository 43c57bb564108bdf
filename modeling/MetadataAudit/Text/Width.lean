import MetadataAudit.Text.Cluster

/-! # Width on a terminal

How many columns a text takes: two for a wide character, none for a mark on another one, and one
for any other, controls included.  Emoji with all their parts, and the ligatures of some scripts,
take less than their characters do by themselves.  They show by their last characters, so a text is
read from its end, with a note of what follows.
-/
namespace MetadataAudit
namespace Text

/-! ### Classes of characters -/

/-- Whether a character lies between two code points. -/
def between (a b : Nat) (c : Char) : Bool := a ≤ c.toNat && c.toNat ≤ b

/-- The zero width joiner. -/
def joiner : Char := '\u200D'

/-- Whether a character is one of the letters that flags are written with. -/
def isFlagLetter (c : Char) : Bool := between 0x1F1E6 0x1F1FF c

/-- Whether a character gives an emoji a skin tone. -/
def isSkinTone (c : Char) : Bool := between 0x1F3FB 0x1F3FF c

/-- Whether a character is an Arabic lam. -/
def isLam (c : Char) : Bool :=
  within [(0x644, 0x644), (0x6B5, 0x6B8), (0x76A, 0x76A), (0x8A6, 0x8A6), (0x8C7, 0x8C7)] c

/-- Whether a character is an Arabic alef. -/
def isAlef (c : Char) : Bool :=
  within [(0x622, 0x623), (0x625, 0x625), (0x627, 0x627), (0x671, 0x673), (0x675, 0x675),
    (0x773, 0x774), (0x870, 0x882)] c

/-- Whether Arabic letters join across a character: it takes no column and has no joining form of
its own. -/
def isTransparent (c : Char) : Bool :=
  within emptyRanges c &&
    !within [(0x605, 0x605), (0x890, 0x891), (0x8E2, 0x8E2), (0x1160, 0x11FF), (0x180E, 0x180E),
      (0x200C, 0x200D), (0x2066, 0x2069), (0x3164, 0x3164), (0xA8FA, 0xA8FA), (0xD7B0, 0xD7FB),
      (0xFFA0, 0xFFA0), (0xFFF0, 0xFFF8)] c

/-- Whether a Tifinagh letter can be one of two that share a column. -/
def isTifinagh (c : Char) : Bool := between 0x2D31 0x2D65 c || c = '\u2D6F'

/-- Whether a Khmer letter has a form below another letter. -/
def hasSubscript (c : Char) : Bool :=
  within [(0x1780, 0x1782), (0x1784, 0x1787), (0x1789, 0x178C), (0x178E, 0x1793),
    (0x1795, 0x1798), (0x179B, 0x179D), (0x17A0, 0x17A0), (0x17A2, 0x17A2), (0x17A7, 0x17A7),
    (0x17AB, 0x17AC), (0x17AF, 0x17AF)] c

/-- Whether a mark may stand anywhere in a ligature: it has no shape of its own. -/
def isShapeless (c : Char) : Bool :=
  within [(0x34F, 0x34F), (0x17B4, 0x17B5), (0x180B, 0x180D), (0x180F, 0x180F), (0xFE00, 0xFE0F),
    (0xE0100, 0xE01EF)] c

/-! ### What follows -/

/-- The last parts of ligatures. -/
inductive Ligature where
  /-- The end of the Hebrew alef-lamed. -/
  | lamed
  /-- The ends of the Buginese iya: the last letter, and the vowel with it. -/
  | ya | vowelYa
  /-- The end of two Tifinagh letters that share a column, and the sign between them with it. -/
  | tifinagh | joinedTifinagh
  /-- The end of two Lisu tones. -/
  | tone
  /-- The end of the Old Turkic ligature. -/
  | orkhon
  /-- A Khmer letter that a sign before it puts below another one. -/
  | subscript
deriving DecidableEq

/-- What follows a character, as far as the columns of the character depend on it. -/
inductive Follower where
  | other
  | lineFeed
  | skinTone
  | emoji
  /-- An emoji with a joiner before it, and the same with a keycap before that. -/
  | joinedEmoji | joinedKeycap
  /-- A letter of a flag, and several. -/
  | flagLetter | flagLetters
  /-- Letters of flags before a joined emoji: one, an even and an odd number. -/
  | joinedLetter | joinedEven | joinedOdd
  /-- Tags at the end of a flag before a joined emoji: as many letters and as many digits. -/
  | joinedTags (letters digits : Nat)
  /-- The Kirat Rai vowels e and ai. -/
  | kiratE | kiratAi
  /-- An alef, which makes one with a lam before it. -/
  | alef
  /-- The last part of a ligature, and whether a joiner stands before it. -/
  | ligature (last : Ligature) (joined : Bool)
deriving DecidableEq

/-- What follows a character, with the signs of style between the two. -/
structure After where
  follower : Follower := .other
  /-- A sign that asks for an emoji. -/
  emojiStyle : Bool := false
  /-- A sign that asks for a letter. -/
  textStyle : Bool := false
  /-- A sign that asks for a wide quotation mark. -/
  wideQuote : Bool := false
deriving DecidableEq

namespace Follower

/-- Whether signs of style do not stand in the way of what follows. -/
def outlastsStyle : Follower → Bool
  | alef | ligature _ _ => true
  | _ => false

/-- Whether a joiner and an emoji follow, perhaps with a keycap between. -/
def isJoined : Follower → Bool
  | joinedEmoji | joinedKeycap => true
  | _ => false

end Follower

namespace After

/-- With a sign that asks for an emoji. -/
def styleEmoji (a : After) : After :=
  if a.follower.outlastsStyle || a.follower.isJoined then { a with emojiStyle := true }
  else { emojiStyle := true }

/-- With a sign that asks for a letter. -/
def styleText (a : After) : After :=
  if a.follower.outlastsStyle then { a with textStyle := true } else { textStyle := true }

/-- With a sign that asks for a wide quotation mark. -/
def widenQuote (a : After) : After :=
  if a.follower.outlastsStyle then { a with wideQuote := true } else { wideQuote := true }

/-- After a sign that asks for an emoji came to nothing. -/
def forgetEmoji (a : After) : After :=
  if a.follower.outlastsStyle then { a with emojiStyle := false } else {}

end After

/-! ### The columns of a character -/

/-- The columns of a character by itself, and what it is to the character before it. -/
def alone (c : Char) : Int × After :=
  if c = '\u05DC' then (1, { follower := .ligature .lamed false })
  else if isAlef c then (1, { follower := .alef })
  else if hasSubscript c then (1, { follower := .ligature .subscript false })
  else if c = '\u17A4' then (2, {})
  else if c = '\u17D8' then (3, {})
  else if c = '\u1A10' then (1, { follower := .ligature .ya false })
  else if isTifinagh c then (1, { follower := .ligature .tifinagh false })
  else if between 0xA4FC 0xA4FD c then (1, { follower := .ligature .tone false })
  else if c = '\uFE01' then (0, { wideQuote := true })
  else if c = '\uFE0E' then (0, { textStyle := true })
  else if c = '\uFE0F' then (0, { emojiStyle := true })
  else if c.toNat = 0x10C03 then (1, { follower := .ligature .orkhon false })
  else if c.toNat = 0x16D67 then (1, { follower := .kiratE })
  else if c.toNat = 0x16D68 then (1, { follower := .kiratAi })
  else if isFlagLetter c then (1, { follower := .flagLetter })
  else if isSkinTone c then (2, { follower := .skinTone })
  else if within emojiRanges c then (2, { follower := .emoji })
  else if within emptyRanges c then (0, {})
  else if within wideRanges c then (2, {})
  else (1, {})

/-- What a character adds that makes one with the last part of a ligature. -/
def Ligature.extend? (last : Ligature) (joined : Bool) (c : Char) : Option (Int × Follower) :=
  match last with
  | lamed => if joined && c = '\u05D0' then some (0, .other) else none
  | ya => if joined && c = '\u1A17' then some (0, .ligature .vowelYa true) else none
  | vowelYa => if c = '\u1A15' then some (0, .other) else none
  | tifinagh =>
    if c = '\u2D7F' then some (1, .ligature .joinedTifinagh true)
    else if joined && isTifinagh c then some (0, .other)
    else none
  | joinedTifinagh => if isTifinagh c then some (-1, .other) else none
  | tone => if between 0xA4F8 0xA4FB c then some (0, .other) else none
  | orkhon => if joined && c.toNat = 0x10C32 then some (0, .other) else none
  | subscript => if c = '\u17D2' then some (-1, .other) else none

/-- What a character adds that makes one with what follows it. -/
def Follower.extend? (f : Follower) (c : Char) : Option (Int × Follower) :=
  match f with
  | other | lineFeed | joinedKeycap => none
  | skinTone =>
    if within tonedRanges c then some (0, .emoji)
    else if c = joiner then some (0, .joinedEmoji)
    else none
  | emoji => if c = joiner then some (0, .joinedEmoji) else none
  | joinedEmoji =>
    if c = '\u20E3' then some (0, .joinedKeycap)
    else if isFlagLetter c then some (1, .joinedLetter)
    else if isSkinTone c then some (0, .skinTone)
    else if c.toNat = 0xE007F then some (0, .joinedTags 0 0)
    else if within emojiRanges c then some (0, .emoji)
    else none
  | flagLetter => if isFlagLetter c then some (1, .flagLetters) else none
  | flagLetters =>
    if isFlagLetter c then some (1, .flagLetters)
    else if c = joiner then some (0, .joinedEmoji)
    else none
  | joinedLetter => if isFlagLetter c then some (-1, .joinedEven) else none
  | joinedEven =>
    if isFlagLetter c then some (3, .joinedOdd)
    else if c = joiner then some (0, .joinedEmoji)
    else none
  | joinedOdd =>
    if isFlagLetter c then some (-1, .joinedEven)
    else if c = joiner then some (0, .joinedEmoji)
    else none
  | joinedTags letters digits =>
    if between 0xE0061 0xE007A c && digits = 0 && letters < 6 then
      some (0, .joinedTags (letters + 1) 0)
    else if between 0xE0030 0xE0039 c && digits = 0 && letters ≤ 4 then some (0, .joinedTags 0 1)
    else if between 0xE0030 0xE0039 c && 0 < digits && digits < 3 then
      some (0, .joinedTags 0 (digits + 1))
    else if c.toNat = 0x1F3F4 && (3 ≤ letters || digits = 3) then some (0, .emoji)
    else none
  | kiratE =>
    if c.toNat = 0x16D63 || c.toNat = 0x16D69 then some (0, .other)
    else if c.toNat = 0x16D67 then some (0, .kiratAi)
    else if c.toNat = 0x16D68 then some (1, .kiratE)
    else none
  | kiratAi => if c.toNat = 0x16D63 then some (0, .other) else none
  | alef =>
    if isLam c then some (0, .other) else if isTransparent c then some (0, .alef) else none
  | ligature last joined =>
    if c = joiner then some (0, .ligature last true)
    else if isShapeless c then some (0, .ligature last joined)
    else last.extend? joined c

/-- The columns that a character beyond ASCII adds to what follows it, where no sign of style
does. -/
def unstyled (a : After) (c : Char) : Int × After :=
  match a.follower.extend? c with
  | some (n, f) => (n, { a with follower := f })
  | none => alone c

/-- The columns that a character adds to what follows it. -/
def columns (a : After) (c : Char) : Int × After :=
  if a.emojiStyle && within styledRanges c then
    (if a.follower.isJoined then 0 else 2, { follower := .emoji })
  else
    let a := if a.emojiStyle then a.forgetEmoji else a
    if c = '\n' then (1, { follower := .lineFeed })
    else if c = '\r' && a.follower = .lineFeed then (0, {})
    else if c.toNat ≤ 0xA0 then (1, {})
    else if a = {} then alone c
    else if c = '\uFE0F' then (0, a.styleEmoji)
    else if c = '\uFE0E' then (0, a.styleText)
    else if c = '\uFE01' then (0, a.widenQuote)
    else if a.textStyle && within textualRanges c then (1, {})
    else if !a.textStyle && a.wideQuote && within [(0x2018, 0x2019), (0x201C, 0x201D)] c then
      (2, {})
    else unstyled { follower := a.follower } c

/-- The columns of a text, and what its first character is to one before it. -/
def measure (cs : List Char) : Int × After :=
  cs.foldr (fun c (n, a) => (n + (columns a c).1, (columns a c).2)) (0, {})

/-- The columns of a text. -/
def width (cs : List Char) : Nat := (measure cs).1.toNat

/-- The longest start of a list of clusters that fits into `room` columns, and the rest. -/
def splitAtWidth (room : Nat) : List (List Char) → List Char × List Char
  | [] => ([], [])
  | cluster :: rest =>
    if width cluster ≤ room then
      let (head, tail) := splitAtWidth (room - width cluster) rest
      (cluster ++ head, tail)
    else ([], cluster ++ rest.flatten)

/-- Splitting loses nothing. -/
theorem append_splitAtWidth (room : Nat) (cs : List (List Char)) :
    (splitAtWidth room cs).1 ++ (splitAtWidth room cs).2 = cs.flatten := by
  induction cs generalizing room with
  | nil => rfl
  | cons c cs ih => rw [splitAtWidth]; split <;> simp [ih]

end Text
end MetadataAudit
