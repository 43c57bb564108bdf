/-! # UTF-8

Bytes read as text.  `decode` splits a byte string into the characters it encodes and, where no
character begins, single bytes that belong to none; `encode` writes a text as bytes.
-/
namespace MetadataAudit

/-- The content of a file. -/
abbrev Bytes := List UInt8

/-- A character, or a byte that belongs to none. -/
abbrev Symbol := Option Char

namespace Utf8

/-- Whether a byte continues a character. -/
def isContinuation (b : UInt8) : Bool := 0x80 ≤ b && b ≤ 0xBF

/-- The six payload bits of a continuation byte. -/
def payload (b : UInt8) : Nat := b.toNat % 64

/-- The character that starts a byte string, and the bytes after it.  Overlong forms, halves of
surrogate pairs and numbers past the last code point encode no character. -/
def next? : Bytes → Option (Char × Bytes)
  | a :: rest =>
    if a < 0x80 then
      some (Char.ofNat a.toNat, rest)
    else if 0xC2 ≤ a && a ≤ 0xDF then
      match rest with
      | b :: rest =>
        if isContinuation b then
          some (Char.ofNat ((a.toNat - 0xC0) * 64 + payload b), rest)
        else none
      | _ => none
    else if 0xE0 ≤ a && a ≤ 0xEF then
      match rest with
      | b :: c :: rest =>
        let n := ((a.toNat - 0xE0) * 64 + payload b) * 64 + payload c
        if isContinuation b && isContinuation c && 0x800 ≤ n && (n < 0xD800 || 0xDFFF < n) then
          some (Char.ofNat n, rest)
        else none
      | _ => none
    else if 0xF0 ≤ a && a ≤ 0xF4 then
      match rest with
      | b :: c :: d :: rest =>
        let n := (((a.toNat - 0xF0) * 64 + payload b) * 64 + payload c) * 64 + payload d
        if isContinuation b && isContinuation c && isContinuation d && 0x10000 ≤ n &&
            n ≤ 0x10FFFF then
          some (Char.ofNat n, rest)
        else none
      | _ => none
    else none
  | [] => none

theorem length_next? {bs rest : Bytes} {c : Char} (h : next? bs = some (c, rest)) :
    rest.length < bs.length := by
  unfold next? at h
  grind

/-- The characters of a byte string; a byte where no character starts stands alone. -/
def decode (bs : Bytes) : List Symbol :=
  match bs with
  | [] => []
  | b :: bs =>
    match _h : next? (b :: bs) with
    | some (c, rest) => some c :: decode rest
    | none => none :: decode bs
termination_by bs.length
decreasing_by
  · exact length_next? (by assumption)
  · simp

/-- The bytes of a text. -/
def encode (s : String) : Bytes :=
  s.toList.flatMap String.utf8EncodeChar

/-- The text of symbols that are all characters. -/
def text? (symbols : List Symbol) : Option String :=
  (symbols.mapM id).map String.ofList

/-- The text that a byte string encodes. -/
def decodeText? (bs : Bytes) : Option String :=
  text? (decode bs)

/-- How many bytes come before the first one that belongs to no character. -/
def validLength (bs : Bytes) : Nat :=
  ((decode bs).takeWhile Option.isSome).foldl
    (fun n s => n + (s.map Char.utf8Size).getD 0) 0

end Utf8
end MetadataAudit
