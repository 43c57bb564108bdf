import MetadataAudit.Text.Decimal
import MetadataAudit.Text.Hex
import MetadataAudit.Text.Split
import MetadataAudit.Text.Utf8

/-! # Addresses of pages

An address names a host, perhaps with a port.  A host whose last part is a number is meant as the
four bytes of a network address, written as up to four numbers, of which the last one fills the
bytes that remain.
-/
namespace MetadataAudit
namespace Address

/-- What stands between the scheme of an address and the path. -/
def authority (url : List Char) : List Char :=
  let behind := ((url.dropWhile (· ≠ ':')).drop 1).dropWhile fun c => c = '/' || c = '\\'
  behind.takeWhile fun c => c ≠ '/' && c ≠ '\\' && c ≠ '?' && c ≠ '#'

/-- The host with its port, without the name of a user. -/
def hostAndPort (url : List Char) : List Char :=
  ((authority url).reverse.takeWhile (· ≠ '@')).reverse

/-- The bytes of a text in which a percent sign and two hexadecimal digits stand for a byte. -/
def unescape : List Char → Bytes
  | '%' :: a :: b :: cs =>
    match Hex.value? a, Hex.value? b with
    | some x, some y => UInt8.ofNat (x * 16 + y) :: unescape cs
    | _, _ => 37 :: unescape (a :: b :: cs)
  | c :: cs => String.utf8EncodeChar c ++ unescape cs
  | [] => []

/-- Whether a character may not stand in the name of a host. -/
def isForbidden (c : Char) : Bool :=
  c.toNat ≤ 0x20 || c.toNat = 0x7F || "%#/:<>?@[\\]^|".toList.contains c

/-- The name of the host of an address. -/
def host? (url : List Char) : Option (List Char) := do
  let name ← Utf8.decodeText? (unescape ((hostAndPort url).takeWhile (· ≠ ':')))
  if name.isEmpty || name.toList.any isForbidden then none else some name.toList

/-- Whether a port is a number of at most 16 bits, or nothing at all. -/
def isPort (cs : List Char) : Bool := cs.all Char.isDigit && Decimal.value cs ≤ 0xFFFF

/-- The value of digits to a base. -/
def valueIn (base : Nat) (cs : List Char) : Nat :=
  cs.foldl (fun n c => n * base + (Hex.value? c).getD 0) 0

/-- A part of a network address: a decimal number, an octal one that begins with a zero, or a
hexadecimal one that begins with a zero and an x. -/
def number? (cs : List Char) : Option Nat :=
  match cs with
  | '0' :: 'x' :: digits | '0' :: 'X' :: digits =>
    if digits.all fun c => (Hex.value? c).isSome then some (valueIn 16 digits) else none
  | '0' :: d :: digits =>
    if (d :: digits).all fun c => '0' ≤ c && c ≤ '7' then some (valueIn 8 (d :: digits)) else none
  | _ => if Decimal.isDigits cs then some (Decimal.value cs) else none

/-- The parts of the name of a host, without an empty one at the end. -/
def parts (host : List Char) : List (List Char) :=
  let parts := Text.splitChars '.' host
  if parts.getLast? = some [] then parts.dropLast else parts

/-- Whether the last part of a name is a number. -/
def endsInNumber (host : List Char) : Bool :=
  match (parts host).getLast? with
  | some part => Decimal.isDigits part || (number? part).isSome
  | none => false

/-- The largest number that the last part of a network address may be, behind so many others. -/
def largestLast : Nat → Nat
  | 0 => 0xFFFFFFFF
  | 1 => 0xFFFFFF
  | 2 => 0xFFFF
  | _ => 0xFF

/-- Whether some parts make up a network address. -/
def isNetworkAddress (parts : List (List Char)) : Bool :=
  match (parts.mapM number?).map List.reverse with
  | some (last :: before) =>
    before.length ≤ 3 && last ≤ largestLast before.length && before.all (· ≤ 0xFF)
  | _ => false

/-- Whether a connection can be tried to the host of an address. -/
def isUsable (url : String) : Bool :=
  isPort (((hostAndPort url.toList).dropWhile (· ≠ ':')).drop 1) &&
    match host? url.toList with
    | some host => !endsInNumber host || isNetworkAddress (parts host)
    | none => false

end Address
end MetadataAudit
