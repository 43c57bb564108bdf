import MetadataAudit.Violation

/-! # Failures and their sources

Whatever fails can be asked for its source, the failure that led to it directly, and that one for its own,
until one has none.  The source of a violation is the failure with which its causes begin.  Of a failure
from outside the grid its text is all that is known, so nothing is behind it.
-/
namespace MetadataAudit

/-- Something that failed. -/
inductive Failure where
  | violation (v : Violation)
  /-- A failure from outside the grid, known by its text. -/
  | foreign (text : String)
deriving DecidableEq

namespace Cause

/-- The failure with which a chain of causes begins. -/
def first? : Cause → Option Failure
  | .none => Option.none
  | .foreign text => some (.foreign text)
  | .finding inner cause => some (.violation ⟨inner, cause⟩)

/-- How many failures a chain has. -/
def depth : Cause → Nat
  | .none => 0
  | .foreign _ => 1
  | .finding _ cause => cause.depth + 1

/-- A chain of causes in words: what its first failure says, and then the rest in words. -/
def told? : Cause → Option String
  | .none => Option.none
  | .foreign text => some text
  | .finding inner cause =>
    match cause.told? with
    | some nested => some (inner.message ++ " Cause: " ++ nested)
    | Option.none => some inner.message

end Cause

namespace Failure

/-- The failure that led to a failure directly. -/
def source? : Failure → Option Failure
  | violation v => v.cause.first?
  | foreign _ => none

/-- A failure as it is displayed. -/
def text : Failure → String
  | violation v => v.text
  | foreign text => text

/-- How many failures are behind a failure. -/
def depth : Failure → Nat
  | violation v => v.cause.depth
  | foreign _ => 0

theorem depth_lt_of_source? {f g : Failure} (h : f.source? = some g) : g.depth < f.depth := by
  cases f with
  | foreign text => cases h
  | violation v =>
    obtain ⟨finding, cause⟩ := v
    cases cause with
    | none => cases h
    | foreign text =>
      cases h
      exact Nat.zero_lt_one
    | finding inner cause =>
      cases h
      exact Nat.lt_succ_self cause.depth

/-- The failures that led to a failure, each found as the source of the one before. -/
def sources (f : Failure) : List Failure :=
  match _h : f.source? with
  | none => []
  | some g => g :: g.sources
termination_by f.depth
decreasing_by exact depth_lt_of_source? (by assumption)

end Failure
end MetadataAudit
