import MetadataAudit.Address

/-! # Fetching license pages

A license page is opened to see that it is there.  All that is kept of it is whether it holds
anything but blanks.
-/
namespace MetadataAudit

/-- What a page that was read holds. -/
inductive Page where
  | content
  | blank
deriving DecidableEq

/-- Why a page could not be read. -/
inductive FetchError where
  | client
  | connect (url : String)
  | read (url : String)
  | timeout (url : String) (nanos : Nat)
deriving DecidableEq

/-- Opens the page at an address. -/
abbrev Fetch := String → Except FetchError Page

namespace FetchError

/-- The digits of a fraction of `width` digits, without zeros at the end. -/
def fractionDigits (width fraction : Nat) : String :=
  String.ofList ((Decimal.padded width fraction).toList.reverse.dropWhile (· = '0')).reverse

/-- A quantity with a fraction of `width` digits and a unit. -/
def quantity (whole width fraction : Nat) (unit : String) : String :=
  let digits := fractionDigits width fraction
  Nat.repr whole ++ (if digits.isEmpty then "" else "." ++ digits) ++ unit

/-- A span of time in the largest unit of which it holds one. -/
def spanText (nanos : Nat) : String :=
  if 1000000000 ≤ nanos then quantity (nanos / 1000000000) 9 (nanos % 1000000000) "s"
  else if 1000000 ≤ nanos then quantity (nanos / 1000000) 6 (nanos % 1000000) "ms"
  else if 1000 ≤ nanos then quantity (nanos / 1000) 3 (nanos % 1000) "µs"
  else quantity nanos 0 0 "ns"

/-- What went wrong, in words. -/
def message : FetchError → String
  | .client => "Failed to build HTTP client"
  | .connect url => s!"could not connect to {url}"
  | .read url => s!"could not read body of {url}"
  | .timeout url nanos => s!"request to {url} timed out after {spanText nanos}"

end FetchError

namespace Fetch

/-- The network on which no connection is ever made. -/
def unreachable : Fetch := fun url => .error (.connect url)

/-- Opens pages as `fetch` does, given some time.  An address that names no host is never tried;
with no time at all it is up at once. -/
def within (nanos : Nat) (fetch : Fetch) : Fetch := fun url =>
  if !Address.isUsable url then .error (.connect url)
  else if nanos = 0 then .error (.timeout url 0)
  else fetch url

end Fetch
end MetadataAudit
