import MetadataAudit.Check.Basic
import MetadataAudit.Text.Pattern

/-! # Licenses

A license is the address of a page that can be read and is not blank.  Each address is opened at
most once in a run; an address that failed before is reported as a duplicate from then on.
-/
namespace MetadataAudit
namespace License

/-! ### Addresses -/

/-- Letters and digits. -/
def alphanumeric : CharClass := .union (.range '0' '9') (.union (.range 'a' 'z') (.range 'A' 'Z'))

/-- What may stand inside the name of a host. -/
def hostClass : CharClass := alphanumeric.adding "-._".toList

/-- What may stand behind the host. -/
def tailClass : CharClass := alphanumeric.adding "-.?,'/\\+&%$#_=~:;@!*()".toList

/-- The scheme of an address, with what separates it from the host. -/
def scheme : Pattern :=
  .followed (.exactly "http".toList)
    (.followed (.repeated '?' true (.one (.only 's'))) (.exactly "://".toList))

/-- The rest of the host behind its first character, in runs that end with a letter or digit. -/
def host : Pattern :=
  .repeated '*' true (.followed (.repeated '*' true (.one hostClass)) (.one alphanumeric))

/-- The port, if it is given. -/
def port : Pattern :=
  .repeated '?' true
    (.followed (.one (.only ':')) (.repeated '+' true (.one (.range '0' '9'))))

/-- The slash behind host and port, if it is given. -/
def slash : Pattern := .repeated '?' true (.one (.only '/'))

/-- The rest of the address, if there is more of it. -/
def tail : Pattern := .repeated '?' true (.repeated '*' true (.one tailClass))

/-- The addresses of pages. -/
def address : Pattern :=
  .followed scheme (.followed (.one alphanumeric)
    (.followed host (.followed port (.followed slash tail))))

/-- Whether a text is the address of a page. -/
def isAddress (cs : List Char) : Bool := Pattern.matchesAny true [address.anchored] cs

/-! ### Judging addresses -/

/-- The addresses judged so far. -/
structure Seen where
  good : List String := []
  bad : List String := []
deriving DecidableEq

/-- The violation of an address that is opened, if there is one. -/
def verdict (result : Except FetchError Page) (l : Location) (profile : String) :
    Option Violation :=
  match result with
  | .ok .content => none
  | .ok .blank => some (.ofProblem .urlBlank l profile)
  | .error e =>
    let problem := match e with
      | .read _ => Problem.urlUnreadable
      | _ => Problem.urlUnreachable
    some ((Violation.ofProblem problem l profile).causedByText e.message)

/-- What the log is told of an address that failed. -/
def rejected (v : Violation) : Log.Event :=
  ⟨.debug, .licenses, "License URL rejected",
    [("row", .number v.location.row), ("reason", .quoted v.message)]⟩

/-- Judges an address for the first time. -/
def judge (fetch : Fetch) (seen : Seen) (url : String) (l : Location) (profile : String) :
    Outcome × Seen :=
  if isAddress url.toList then
    let probing : Log.Event := ⟨.debug, .fetching, "Probing license URL", [("url", .quoted url)]⟩
    match verdict (fetch url) l profile with
    | none =>
      ({ fetched := [url], events := [probing] }, { seen with good := url :: seen.good })
    | some v =>
      ({ violations := [v], fetched := [url], events := [probing, rejected v] },
        { seen with bad := url :: seen.bad })
  else
    let v := Violation.ofProblem .urlMalformed l profile
    ({ violations := [v], events := [rejected v] }, { seen with bad := url :: seen.bad })

/-- A license is the address of a page that is there, unless the profile is exempt. -/
def check (rules : Rulebook) (fetch : Fetch) (seen : Seen) (profile : String) (l : Location)
    (g : Grid) : Outcome × Seen :=
  match g.dataCell l profile [Field.license] with
  | .error v => (.violation v, seen)
  | .ok none => (.clean, seen)
  | .ok (some url) =>
    if Text.isBlank url || rules.licenseExempt profile then (.clean, seen)
    else if seen.good.contains url then (.clean, seen)
    else if seen.bad.contains url then (.reject .urlKnownBad l profile, seen)
    else judge fetch seen url l profile

end License
end MetadataAudit
