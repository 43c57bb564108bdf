import MetadataAudit.CommandLine.Session
import MetadataAudit.Listing
import MetadataAudit.Report.Document
import MetadataAudit.Table.Drawing

/-! # Running commands

A command gives an exit code and the lines of its output.  Only edits and logs change files.
-/
namespace MetadataAudit
namespace Command

/-- Reads the rule book that is to be used. -/
def openRules (spans : List Log.Span) : Option Path → Work Rulebook
  | none => return .builtin
  | some path => do
    let rules ← Work.attempt fun s => (Rulebook.load s.tree path).mapError .rules
    Work.tell (Journal.within spans [Journal.rulebookLoaded path rules])
    return rules

/-- Opens the store that is to be used. -/
def openStore (spans : List Log.Span) (path : Option Path) (rules : Rulebook) : Work Store := do
  let (store, events) ← Work.attempt fun s =>
    ((Store.opened rules path s.tree s.now).mapError .opening).map fun store =>
      (store, Journal.storeOpened s.tree store)
  Work.tell (Journal.within spans events)
  return store

/-- Reads the rule book and opens the store. -/
def openBoth (i : Invocation) (spans : List Log.Span) : Work (Rulebook × Store) := do
  let rules ← openRules spans i.rulesFile
  return (rules, ← openStore spans i.profilesFile rules)

/-- What the checks of a command may consult. -/
def context (v : Validate) (s : Surroundings) (rules : Rulebook) (store : Store) : Context where
  store := store
  rules := rules
  hostDir := v.hostDir
  fetch := if v.offline then none else some (s.network.within (v.timeoutSeconds * 1000000000))
  fileExists := s.tree.exists?

/-- The audit of a spreadsheet, with the grid that was audited. -/
def audit (i : Invocation) (v : Validate) : Work (Grid × Audit) := do
  let spans := [Journal.commandSpan v.sheet v.profile]
  let (rules, store) ← openBoth i spans
  Work.tell (if v.offline then Journal.within spans [Journal.offline] else [])
  let g ← Work.attempt fun s => (Grid.load s.tree v.sheet).mapError .sheet
  Work.tell (Journal.within spans [Journal.sheetRead v.sheet g])
  let ctx ← Work.attempt fun s => .ok (context v s.toSurroundings rules store)
  let names ← Work.attempt fun _ => (Audit.checkNames ctx v.profile).mapError .audit
  Work.tell (Journal.within spans (Audit.resolveEvents ctx names))
  let a ← Work.attempt fun _ => (Audit.run ctx v.profile g).mapError .audit
  Work.tell (Journal.auditRun spans v.profile g a)
  return (g, a)

/-- Validates a spreadsheet. -/
def report (i : Invocation) (v : Validate) : Work Report := do
  let (g, a) ← audit i v
  let r ← Work.attempt fun s => .ok (Report.ofViolations a.violations g s.now)
  Work.tell (Journal.within [Journal.commandSpan v.sheet v.profile]
    (Journal.reportMade i.logging.data g a.violations r))
  return r

/-- The profile of a name in the form of a document. -/
def profile (name : String) (store : Store) : Except CommandError ProfileDocument :=
  match store.get? name with
  | some p => .ok p.toDocument
  | none => .error (.profileMissing name)

/-- Makes an edit and saves the store. -/
def makeEdit (e : Edit) (store : Store) : Work Unit := do
  let edited ← Work.attempt fun s => (e.apply store s.now).mapError .edit
  Work.tell (Journal.within [] edited.events)
  Work.save edited.store
  let saved := (edited.store.path.map fun p => Journal.storeSaved p edited.store).toList
  Work.tell (Journal.within [] (saved ++ e.farewell))

end Command

namespace Report

/-- The lines in which a report is printed. -/
def printed (r : Report) : ReportForm → List String
  | .json => Text.lines r.text
  | .table => (if r.size = 0 then [] else r.table.draw) ++ [r.summary]

end Report

namespace ProfileDocument

/-- The lines in which a profile is printed. -/
def printed (d : ProfileDocument) : List String :=
  [s!"Profile: {d.name}", s!"Last update: {d.lastUpdate.display}"] ++
    (if d.validations.isEmpty then ["Runs every registered check."] else d.table.draw)

end ProfileDocument

namespace Command

/-- Runs a command; gives the exit code and the lines of the output. -/
def run (i : Invocation) : Work (Nat × List String) :=
  match i.command with
  | .listChecks => return (0, Kind.table.draw)
  | .validate v => do
    let r ← report i v
    return (if r.size = 0 then 0 else 1, r.printed v.form)
  | .listProfiles => do
    let (_, store) ← openBoth i []
    return (0, store.toDocument.table.draw)
  | .showProfile name => do
    let (_, store) ← openBoth i []
    let d ← Work.attempt fun _ => profile name store
    return (0, d.printed)
  | .edit e => do
    let (_, store) ← openBoth i []
    makeEdit e store
    return (0, [])

/-- The paths whose presence a command asks about. -/
def lookups (i : Invocation) (s : Surroundings) : List Path :=
  match i.command, Session.start i.logging s with
  | .validate v, .ok session =>
    match (audit i v).run session with
    | (.ok (_, a), _) => a.looked
    | _ => []
  | _, _ => []

end Command

/-- What came of an invocation. -/
structure Conclusion where
  code : Nat
  /-- The lines of the output. -/
  output : List String := []
  /-- The lines of the error output. -/
  errors : List String := []
  tree : FileTree

namespace Invocation

/-- Runs an invocation.  The log file is made first, and without it nothing is done. -/
def run (i : Invocation) (s : Surroundings) : Conclusion :=
  match Session.start i.logging s with
  | .error e =>
    let path := i.logging.file.getD ""
    { code := 1, tree := s.tree,
      errors := [s!"error: failed to initialize logging: open log file {path}: {e.text}"] }
  | .ok session =>
    match (Command.run i).run session with
    | (.ok (code, output), after) => { code, output, errors := after.errors, tree := after.tree }
    | (.error e, after) => { code := 1, errors := after.errors ++ e.lines, tree := after.tree }

end Invocation
end MetadataAudit
