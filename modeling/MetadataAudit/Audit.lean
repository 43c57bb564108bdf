import MetadataAudit.Check.Kind

/-! # Audits

An audit runs the checks of a profile over a grid.  Each check is offered every cell, row by row,
and the violations come grouped by check, in the order in which the checks were resolved.
-/
namespace MetadataAudit

/-- Why an audit could not start. -/
inductive AuditError where
  | unknownProfile (profile : String)
  | noChecks (profile : String)
deriving DecidableEq

namespace AuditError

/-- What went wrong, in words. -/
def message : AuditError → String
  | .unknownProfile profile => s!"unknown profile `{profile}`"
  | .noChecks profile => s!"profile `{profile}` resolved to no validators"

/-- What went wrong, for a person at a terminal. -/
def userMessage : AuditError → String
  | .unknownProfile profile =>
    s!"The profile '{profile}' does not exist. " ++
      "Run `profiles list` to see the available profiles."
  | .noChecks profile =>
    s!"The profile '{profile}' names no known validations. " ++
      "Run `checks` to see the registered validators."

end AuditError

/-- Checks that are ready to run and, in a list beside them, their names. -/
structure Lineup where
  names : List String := []
  checks : List Kind := []
deriving DecidableEq

namespace Lineup

/-- The lineup with a further check at its end, unless that cannot be set up. -/
def add (ctx : Context) (l : Lineup) (k : Kind) : Lineup :=
  match k.setup ctx with
  | .ok () => { names := l.names ++ [k.name], checks := l.checks ++ [k] }
  | .error _ => l

/-- How many checks there are. -/
def size (l : Lineup) : Nat := l.checks.length

end Lineup

/-- The checks that ran, each with what came of it. -/
structure Audit where
  runs : List (Kind × Outcome)

namespace Audit

/-- The kinds of a list of names, unknown names left out; no names at all stand for every kind. -/
def named (names : List String) : List Kind :=
  if names.isEmpty then Kind.all else names.filterMap Kind.ofName?

/-- Whether a kind can be run in a context. -/
def canRun (ctx : Context) (k : Kind) : Bool := (k.setup ctx).toBool

/-- The kinds of a list of names that can be run, in the order of the names. -/
def resolve (ctx : Context) (names : List String) : List Kind :=
  (named names).filter (canRun ctx)

/-- The checks that a list of names asks for, set up one after the other. -/
def lineup (ctx : Context) (names : List String) : Lineup :=
  (named names).foldl (Lineup.add ctx) {}

/-- What the log is told of names and kinds that are left out. -/
def resolveEvents (ctx : Context) (names : List String) : List Log.Event :=
  let unknown := (names.filter fun n => (Kind.ofName? n).isNone).map fun n =>
    (⟨.warn, .registry, "Skipping unknown validator", [("validator", .quoted n)]⟩ : Log.Event)
  let failed := (named names).filterMap fun k =>
    match k.setup ctx with
    | .ok () => none
    | .error e =>
      some (⟨.error, .registry, "Error creating validator",
        [("validator", .quoted k.name), ("error", .plain e.message)]⟩ : Log.Event)
  unknown ++ failed

/-- The names of the checks of a stored profile. -/
def checkNames (ctx : Context) (profile : String) : Except AuditError (List String) :=
  match ctx.store.get? profile with
  | some p => .ok p.validationNames
  | none => .error (.unknownProfile profile)

/-- The kinds for a list of names, of which there must be one. -/
def resolveSome (ctx : Context) (profile : String) (names : List String) :
    Except AuditError (List Kind) :=
  let kinds := resolve ctx names
  if kinds.isEmpty then .error (.noChecks profile) else .ok kinds

/-- The checks of a profile; a profile that names none runs every check. -/
def kinds (ctx : Context) (profile : String) : Except AuditError (List Kind) := do
  resolveSome ctx profile (← checkNames ctx profile)

/-- The checks of several profiles together.  Each name counts once, and no name at all stands for
every check. -/
def unionKinds (ctx : Context) (profiles : List String) : Except AuditError (List Kind) := do
  let names ← profiles.mapM (checkNames ctx)
  resolveSome ctx (", ".intercalate profiles) names.flatten.eraseDups

/-- Runs the checks of a profile over a grid. -/
def run (ctx : Context) (profile : String) (g : Grid) : Except AuditError Audit := do
  let kinds ← kinds ctx profile
  return ⟨kinds.map fun k => (k, k.scan ctx profile g)⟩

/-- The checks that ran. -/
def checks (a : Audit) : List Kind := a.runs.map Prod.fst

/-- All violations, grouped by check. -/
def violations (a : Audit) : Violations := a.runs.flatMap fun r => r.2.violations

/-- The pages that were opened, in order. -/
def fetched (a : Audit) : List String := a.runs.flatMap fun r => r.2.fetched

/-- The paths that were looked up, in order. -/
def looked (a : Audit) : List Path := a.runs.flatMap fun r => r.2.looked

end Audit
end MetadataAudit
