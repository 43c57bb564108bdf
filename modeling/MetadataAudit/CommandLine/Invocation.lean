import MetadataAudit.CommandLine.Arguments
import MetadataAudit.FileTree.Path
import MetadataAudit.Log.Entry
import MetadataAudit.Store.Edit
import MetadataAudit.Text.Decimal

/-! # Invocations

What the program is asked to do, and how that is read from its arguments and from the variables of
its environment.  Some options may be given to a command as well as to the commands above it; the
innermost one counts.  A variable stands in for an option that is not given.
-/
namespace MetadataAudit

/-- The form of a report. -/
inductive ReportForm where
  | table
  | json
deriving DecidableEq

/-- A spreadsheet to be validated. -/
structure Validate where
  sheet : Path
  profile : String := "default"
  form : ReportForm := .table
  hostDir : Option Path := none
  timeoutSeconds : Nat := 10
  offline : Bool := false
deriving DecidableEq

/-- What is to be done. -/
inductive Command where
  | validate (v : Validate)
  | listProfiles
  | showProfile (name : String)
  | edit (e : Edit)
  | listChecks
deriving DecidableEq

/-- What is to be logged, and where. -/
structure Logging where
  style : Log.Style
  file : Option Path := none
  /-- Whether the text of cells is shown. -/
  data : Bool := false
deriving DecidableEq

/-- A command with the options that every command has. -/
structure Invocation where
  command : Command
  profilesFile : Option Path := none
  rulesFile : Option Path := none
  logging : Logging
deriving DecidableEq

/-- A variable of the environment. -/
abbrev Variables := List (String × String)

namespace Invocation

open Arguments

/-- Any path but the empty one. -/
def isPath (s : String) : Bool := s ≠ ""

/-- Any text. -/
def isAny (_ : String) : Bool := true

/-- One of some words. -/
def isOneOf (words : List String) (s : String) : Bool := words.contains s

def levelNames : List String := ["error", "warn", "info", "debug", "trace"]

/-- The options that every command has. -/
def commonFlags : List Flag := [
  { name := "profiles-file", use := .value isPath },
  { name := "rules-file", use := .value isPath },
  { name := "verbose", letter := some 'v', use := .count },
  { name := "quiet", letter := some 'q', use := .count },
  { name := "color", use := .value (isOneOf ["auto", "always", "never"]) },
  { name := "log-level", use := .value (isOneOf levelNames) },
  { name := "log-format", use := .value (isOneOf ["pretty", "compact", "json"]) },
  { name := "log-file", use := .value isPath },
  { name := "log-data", use := .switch },
  { name := "help", letter := some 'h', use := .ask }]

/-- The program itself. -/
def topGrammar : Grammar where
  flags := { name := "version", letter := some 'V', use := .ask } :: commonFlags
  commands := ["validate", "profiles", "checks", "help"]

/-- The command that validates a spreadsheet. -/
def validateGrammar : Grammar where
  flags := [
    { name := "profile", letter := some 'p', use := .value isAny },
    { name := "format", use := .value (isOneOf ["table", "json"]) },
    { name := "host-dir", use := .value isPath },
    { name := "url-timeout-secs", use := .value fun s => (Decimal.natural? s).isSome },
    { name := "offline", use := .switch }] ++ commonFlags
  operands := [isPath]

/-- The commands on profiles. -/
def profilesGrammar : Grammar where
  flags := commonFlags
  commands := ["list", "show", "add", "remove", "help"]

/-- A command without operands. -/
def plainGrammar : Grammar := { flags := commonFlags }

/-- A command with the name of a profile. -/
def nameGrammar : Grammar := { flags := commonFlags, operands := [isAny] }

/-- The command that adds checks to a profile. -/
def addGrammar : Grammar where
  flags := { name := "validation", use := .values } :: commonFlags
  operands := [isAny]

/-- The options that a variable stands in for, with what its value must be. -/
def commonVariables : List (String × String × (String → Bool)) :=
  [("profiles-file", "PROFILES_FILE", isPath), ("rules-file", "RULES_FILE", isPath)]

/-- The same for the command that validates a spreadsheet. -/
def validateVariables : List (String × String × (String → Bool)) :=
  [("host-dir", "HOST_DIR", isPath),
   ("url-timeout-secs", "URL_TIMEOUT_SECS", fun s => (Decimal.natural? s).isSome)]

/-- Makes sure that no two options exclude each other and that the variables which stand in for
options will do. -/
def settle (env : Variables) (standIns : List (String × String × (String → Bool))) (s : Scan) :
    Except Stop Scan :=
  if s.has "verbose" && s.has "quiet" then .error .misuse
  else if standIns.all fun (name, key, accepts) =>
      s.has name || ((env.lookup key).map accepts).getD true then
    .ok s
  else .error .misuse

/-- The value of an option that several commands were given: that of the innermost one. -/
def innermost? (scans : List Scan) (name : String) : Option String :=
  scans.reverse.findSome? fun s => s.value? name

/-- How often a counted option was given to the innermost command that has it. -/
def innermostCount (scans : List Scan) (name : String) : Nat :=
  ((scans.reverse.map fun s => s.count name).find? (0 < ·)).getD 0

/-- What is let through to the log: a level that was named, or one that was raised and lowered from
`warn`, or what a variable says. -/
def filterOf (env : Variables) (scans : List Scan) : Log.Filter :=
  let raised := innermostCount scans "verbose"
  let lowered := innermostCount scans "quiet"
  match innermost? scans "log-level" >>= Log.Threshold.ofText? with
  | some t => .standard t
  | none =>
    if 0 < raised + lowered then .standard (.ofNat (2 + raised - lowered))
    else
      match env.lookup "RUST_LOG" >>= Log.Filter.ofText? with
      | some f => f
      | none => .standard (some .warn)

/-- What is to be logged, and where. -/
def loggingOf (env : Variables) (scans : List Scan) : Logging where
  style := {
    filter := filterOf env scans
    layout := match innermost? scans "log-format" with
      | some "compact" => .compact
      | some "json" => .record
      | _ => .full }
  file := innermost? scans "log-file"
  data := scans.any fun s => s.has "log-data"

/-- A command with the options of all commands on the way to it, the outermost first. -/
def make (env : Variables) (scans : List Scan) (command : Command) : Invocation where
  command := command
  profilesFile := innermost? scans "profiles-file" <|> env.lookup "PROFILES_FILE"
  rulesFile := innermost? scans "rules-file" <|> env.lookup "RULES_FILE"
  logging := loggingOf env scans

/-- The command to validate a spreadsheet. -/
def validateCommand (env : Variables) (s : Scan) : Except Stop Command :=
  match s.operands with
  | [sheet] =>
    .ok (.validate {
      sheet
      profile := (s.value? "profile").getD "default"
      form := if s.value? "format" = some "json" then .json else .table
      hostDir := s.value? "host-dir" <|> env.lookup "HOST_DIR"
      timeoutSeconds :=
        let text := s.value? "url-timeout-secs" <|> env.lookup "URL_TIMEOUT_SECS"
        (text >>= Decimal.natural?).getD 10
      offline := s.has "offline" })
  | _ => .error .misuse

/-- A command on profiles with its own arguments. -/
def profilesCommand (name : String) (s : Scan) : Except Stop Command :=
  match name, s.operands with
  | "list", [] => .ok .listProfiles
  | "show", [profile] => .ok (.showProfile profile)
  | "add", [profile] =>
    if s.has "validation" then .ok (.edit (.add profile (s.values "validation")))
    else .error .misuse
  | "remove", [profile] => .ok (.edit (.remove profile))
  | _, _ => .error .misuse

/-- What the arguments of a command on profiles may be. -/
def profilesCommandGrammar : String → Grammar
  | "add" => addGrammar
  | "list" => plainGrammar
  | _ => nameGrammar

/-- Asks for the text of a command that must be one of some. -/
def help (commands : List String) : List String → Stop
  | [] => .asked "help"
  | [name] => if commands.contains name then .asked "help" else .misuse
  | ["profiles", name] =>
    if commands = topGrammar.commands ∧ profilesGrammar.commands.contains name then .asked "help"
    else .misuse
  | _ => .misuse

/-- Reads the arguments of the commands on profiles. -/
def ofProfilesArguments (env : Variables) (args : List String) :
    Except Stop (List Scan × Command) := do
  let s ← scan profilesGrammar none {} args
  match s.below with
  | none => throw .misuse
  | some ("help", rest) => throw (help profilesGrammar.commands rest)
  | some (name, rest) =>
    let inner ← scan (profilesCommandGrammar name) none {} rest
    let command ← profilesCommand name inner
    let inner ← settle env commonVariables inner
    let s ← settle env commonVariables s
    return ([s, inner], command)

/-- Reads the command below the program. -/
def ofCommand (env : Variables) (name : String) (args : List String) :
    Except Stop (List Scan × Command) :=
  match name with
  | "validate" => do
    let s ← scan validateGrammar none {} args
    let s ← settle env (commonVariables ++ validateVariables) s
    return ([s], ← validateCommand env s)
  | "profiles" => ofProfilesArguments env args
  | "checks" => do
    let s ← scan plainGrammar none {} args
    let s ← settle env commonVariables s
    return ([s], .listChecks)
  | _ => .error (help topGrammar.commands args)

/-- Reads the arguments of the program. -/
def ofArguments (env : Variables) (args : List String) : Except Stop Invocation := do
  let s ← scan topGrammar none {} args
  match s.below with
  | none => throw .misuse
  | some (name, rest) =>
    let (scans, command) ← ofCommand env name rest
    let s ← settle env commonVariables s
    return make env (s :: scans) command

end Invocation
end MetadataAudit
