import MetadataAudit.Check.Basic

/-! # Archival resource keys

A key has the form `ark:/` authority `/` object, with a qualifier after a question mark if need be.
The authority is at least five digits and on the list of the profile; the object is made of ASCII
letters, digits and the marks `_`, `-`, `.` and `/`; the qualifier is any text on one line.
-/
namespace MetadataAudit
namespace Ark

/-- What every key begins with. -/
def scheme : List Char := "ark:/".toList

/-- The least number of digits of an authority. -/
def minDigits : Nat := 5

/-- The characters of an object identifier. -/
def isObjectChar (c : Char) : Bool :=
  c.isAlphanum || c = '_' || c = '-' || c = '.' || c = '/'

/-- Whether a text is an object identifier, with a qualifier if need be. -/
def isObjectId (cs : List Char) : Bool :=
  match cs.dropWhile isObjectChar with
  | [] => !cs.isEmpty
  | c :: qualifier => (cs.head?.any isObjectChar) && c = '?' && !qualifier.contains '\n'

/-- The authority of a key without its scheme: the digits it begins with. -/
def authority (body : List Char) : List Char := body.takeWhile Char.isDigit

/-- What follows the authority and the slash after it. -/
def object (body : List Char) : List Char :=
  match body.dropWhile Char.isDigit with
  | '/' :: rest => rest
  | rest => rest

/-- The problems of a key, in order. -/
def problems (rules : Rulebook) (profile : String) (key : List Char) : List Problem :=
  if scheme.isPrefixOf key then
    let body := key.drop scheme.length
    (if (authority body).length < minDigits then [.naanTooShort] else []) ++
    (if rules.naanAllowed profile (String.ofList (authority body)) then []
      else [.naanNotAllowed]) ++
    (if (object body).isEmpty then [.noObjectId]
      else if isObjectId (object body) then [] else [.invalidObjectId])
  else [.noArkScheme]

/-- Keys of items and of their parents are well formed; blank cells are left to the check of
required fields. -/
def check (rules : Rulebook) (profile : String) (l : Location) (g : Grid) : Outcome :=
  Check.onField [Field.itemArk, Field.parentArk] profile l g fun value =>
    if Text.isBlank value then .clean
    else
      { violations := (problems rules profile (Text.trim value).toList).map
          fun p => .ofProblem p l profile }

end Ark
end MetadataAudit
