import MetadataAudit.Text.Ranges

/-! # Clusters

A cluster is what a reader takes for one character: a letter with its marks, a syllable, a flag, an
emoji with all its parts.  The rules say between which two characters a text may be divided; some
of them look further back than the character before, and `Tail` keeps what they need.
-/
namespace MetadataAudit
namespace Text

/-- How a character joins its neighbours. -/
inductive Role where
  | carriageReturn | lineFeed | control | extend | joiner | regional | prepend | spacing
  /-- The parts of a Hangul syllable: leading, vowel, trailing, and the two composed kinds. -/
  | leading | vowel | trailing | open | closed
  | pictograph | other
deriving DecidableEq

/-- The role of a composed Hangul syllable or of one of its parts; Kirat Rai vowels join
likewise. -/
def hangulRole? (n : Nat) : Option Role :=
  if (0x1100 ≤ n ∧ n ≤ 0x115F) ∨ (0xA960 ≤ n ∧ n ≤ 0xA97C) then some .leading
  else if (0x1160 ≤ n ∧ n ≤ 0x11A7) ∨ (0xD7B0 ≤ n ∧ n ≤ 0xD7C6) then some .vowel
  else if n = 0x16D63 ∨ (0x16D67 ≤ n ∧ n ≤ 0x16D6A) then some .vowel
  else if (0x11A8 ≤ n ∧ n ≤ 0x11FF) ∨ (0xD7CB ≤ n ∧ n ≤ 0xD7FB) then some .trailing
  else if 0xAC00 ≤ n ∧ n ≤ 0xD7A3 then
    some (if (n - 0xAC00) % 28 = 0 then .open else .closed)
  else none

/-- The role of a character. -/
def role (c : Char) : Role :=
  if c = '\r' then .carriageReturn
  else if c = '\n' then .lineFeed
  else if c = '\u200D' then .joiner
  else if 0x20 ≤ c.toNat ∧ c.toNat < 0x7F then .other
  else if within controlRanges c then .control
  else if within extendRanges c then .extend
  else if 0x1F1E6 ≤ c.toNat ∧ c.toNat ≤ 0x1F1FF then .regional
  else
    match hangulRole? c.toNat with
    | some r => r
    | none =>
      if within spacingRanges c then .spacing
      else if within prependRanges c then .prepend
      else if within pictographRanges c then .pictograph
      else .other

/-- How far an emoji has come that a joiner may continue. -/
inductive Emoji where
  | none
  /-- A pictograph with its marks. -/
  | begun
  /-- The same with a joiner after it. -/
  | joined
deriving DecidableEq

/-- How far a conjunct of consonants has come. -/
inductive Conjunct where
  | none
  | consonant
  /-- A consonant and a sign that joins it to the next one. -/
  | linked
deriving DecidableEq

/-- What the rules need to know of the cluster so far. -/
structure Tail where
  role : Role
  emoji : Emoji
  conjunct : Conjunct
  /-- Whether an odd number of regional indicators stands at the end. -/
  oddRegional : Bool
deriving DecidableEq

namespace Tail

/-- The tail after a further character of the same cluster. -/
def push (t : Tail) (c : Char) : Tail :=
  let r := Text.role c
  { role := r
    emoji :=
      if r = .pictograph then .begun
      else if t.emoji = .begun ∧ r = .extend then .begun
      else if t.emoji = .begun ∧ r = .joiner then .joined
      else .none
    conjunct :=
      if within consonantRanges c then .consonant
      else if t.conjunct ≠ .none ∧ within linkRanges c then .linked
      else if t.conjunct ≠ .none ∧ (r = .extend ∨ r = .joiner) ∧ c ≠ '\u200C' then t.conjunct
      else .none
    oddRegional := r = .regional && !t.oddRegional }

/-- The tail of a cluster that is a single character. -/
def of (c : Char) : Tail := push ⟨.other, .none, .none, false⟩ c

/-- Whether two parts of Hangul syllables belong together. -/
def joinsHangul (a b : Role) : Bool :=
  match a with
  | .leading => b = .leading || b = .vowel || b = .open || b = .closed
  | .open | .vowel => b = .vowel || b = .trailing
  | .closed | .trailing => b = .trailing
  | _ => false

/-- Whether a role stands alone. -/
def isLone (r : Role) : Bool := r = .carriageReturn || r = .lineFeed || r = .control

/-- Whether a character continues the cluster. -/
def accepts (t : Tail) (c : Char) : Bool :=
  let r := Text.role c
  if t.role = .carriageReturn && r = .lineFeed then true
  else if isLone t.role || isLone r then false
  else joinsHangul t.role r || r = .extend || r = .joiner || r = .spacing || t.role = .prepend ||
    (t.conjunct = .linked && within consonantRanges c) ||
    (t.emoji = .joined && r = .pictograph) || (t.oddRegional && r = .regional)

end Tail

/-- The clusters of a list of characters, of which `cluster` is the first one so far, last
character first. -/
def clustersFrom (cluster : List Char) (tail : Tail) : List Char → List (List Char)
  | [] => [cluster.reverse]
  | c :: cs =>
    if tail.accepts c then clustersFrom (c :: cluster) (tail.push c) cs
    else cluster.reverse :: clustersFrom [c] (.of c) cs

/-- The clusters of a list of characters. -/
def clusters : List Char → List (List Char)
  | [] => []
  | c :: cs => clustersFrom [c] (.of c) cs

theorem flatten_clustersFrom (cluster : List Char) (tail : Tail) (cs : List Char) :
    (clustersFrom cluster tail cs).flatten = cluster.reverse ++ cs := by
  induction cs generalizing cluster tail with
  | nil => simp [clustersFrom]
  | cons c cs ih => rw [clustersFrom]; split <;> simp [ih]

/-- Clusters divide a text and lose nothing of it. -/
theorem flatten_clusters (cs : List Char) : (clusters cs).flatten = cs := by
  cases cs with
  | nil => rfl
  | cons c cs => simp [clusters, flatten_clustersFrom]

end Text
end MetadataAudit
