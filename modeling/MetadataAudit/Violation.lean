import MetadataAudit.Location

/-! # Violations

A violation says what is wrong with one cell under one profile, and may carry the chain of causes
that led to it: findings about the same grid, and at the end perhaps the text of some other
failure.  Two violations are the same when their findings are; causes take no part in that.
-/
namespace MetadataAudit

/-- What is wrong, where, and under which profile. -/
structure Finding where
  message : String
  location : Location
  profile : String
deriving DecidableEq

/-- Why a finding came about. -/
inductive Cause where
  | none
  /-- A failure from outside the grid, known by its text. -/
  | foreign (text : String)
  /-- Another finding, with its own cause. -/
  | finding (inner : Finding) (cause : Cause)
deriving DecidableEq

/-- A finding with its cause. -/
structure Violation where
  finding : Finding
  cause : Cause := .none
deriving DecidableEq

/-- Violations in the order they were reported. -/
abbrev Violations := List Violation

namespace Finding

/-- The finding with its address and profile, as people read it. -/
def text (f : Finding) : String :=
  s!"Error: {f.message} {f.location.text} [profile: {f.profile}]"

end Finding

namespace Cause

/-- The messages along a chain of causes, outermost first; addresses and profiles are left out,
since the violation itself states them. -/
def messages : Cause → List String
  | .none => []
  | .foreign text => [text]
  | .finding inner cause => inner.message :: cause.messages

/-- The messages of a chain as one text; `none` for the empty chain. -/
def text? (c : Cause) : Option String :=
  match c.messages with
  | [] => Option.none
  | ms => some (" Cause: ".intercalate ms)

end Cause

namespace Violation

/-- A violation without a cause. -/
def of (message : String) (location : Location) (profile : String) : Violation :=
  { finding := ⟨message, location, profile⟩ }

/-- The same finding with `inner` as its cause. -/
def causedBy (v inner : Violation) : Violation :=
  { v with cause := .finding inner.finding inner.cause }

/-- The same finding caused by a failure from outside the grid. -/
def causedByText (v : Violation) (text : String) : Violation :=
  { v with cause := .foreign text }

abbrev message (v : Violation) : String := v.finding.message
abbrev location (v : Violation) : Location := v.finding.location
abbrev profile (v : Violation) : String := v.finding.profile

/-- The violation with address, profile and causes. -/
def text (v : Violation) : String :=
  match v.cause.text? with
  | none => v.finding.text
  | some cause => v.finding.text ++ " Cause: " ++ cause

/-- The violation for a person who reads a report: messages only. -/
def userMessage (v : Violation) : String :=
  match v.cause.text? with
  | none => "Error: " ++ v.message
  | some cause => "Error: " ++ v.message ++ " [Cause: " ++ cause ++ "]"

/-- Whether two violations report the same finding. -/
def same (v w : Violation) : Bool := v.finding == w.finding

end Violation

namespace Violations

/-- Every violation, separated by semicolons. -/
def text (vs : Violations) : String :=
  "; ".intercalate (vs.map Violation.text)

/-- Success when there is nothing to report. -/
def toResult (vs : Violations) : Except Violations Unit :=
  if vs.isEmpty then .ok () else .error vs

/-- Whether two lists report the same findings in the same order. -/
def same (vs ws : Violations) : Bool :=
  vs.map Violation.finding == ws.map Violation.finding

/-- One violation per distinct finding, first occurrence kept. -/
def distinct : Violations → Violations
  | [] => []
  | v :: vs => v :: (distinct vs).filter fun w => !v.same w

end Violations
end MetadataAudit
