import MetadataAudit.Log.Event
import MetadataAudit.Text.Decimal
import MetadataAudit.Text.Pattern
import MetadataAudit.Text.Split

/-! # Log filters

A filter is a list of rules.  A plain rule says how much is let through of the sources whose names
begin in some way; of the plain rules for a source the most specific one decides, and of two alike
the later one.  A rule with a span says how much is let through within spans of a name and of some
values, besides what the plain rules let through.
-/
namespace MetadataAudit
namespace Log

/-- How much is let through; nothing at all for `none`. -/
abbrev Threshold := Option Level

namespace Threshold

/-- The name in configuration. -/
def name : Threshold → String
  | none => "off"
  | some level => level.name

/-- How many levels are let through. -/
def rank : Threshold → Nat
  | none => 0
  | some level => level.rank

/-- Whether a level is let through. -/
def admits (t : Threshold) (level : Level) : Bool := level.rank ≤ t.rank

/-- The threshold of a number: nothing for none and everything from five on. -/
def ofNat : Nat → Threshold
  | 0 => none
  | 1 => some .error
  | 2 => some .warn
  | 3 => some .info
  | 4 => some .debug
  | _ => some .trace

/-- Reads a threshold from its name in either case, or from its number. -/
def ofText? (s : String) : Option Threshold :=
  match Decimal.natural? s with
  | some n => if n ≤ 5 then some (ofNat n) else none
  | none =>
    match s.toLower with
    | "off" => some none
    | "error" => some (some .error)
    | "warn" => some (some .warn)
    | "info" => some (some .info)
    | "debug" => some (some .debug)
    | "trace" => some (some .trace)
    | _ => none

end Threshold

/-- What a value must be. -/
inductive Demand where
  | flag (b : Bool)
  | number (n : Nat)
  /-- A number that no value is. -/
  | unmet
  | text (p : Pattern)
deriving DecidableEq

namespace Demand

/-- Whether a value is as demanded. -/
def holds : Demand → Value → Bool
  | flag b, .flag c => b = c
  | number n, .number m => n = m
  | text p, .quoted s | text p, .plain s | text p, .remark s => p.accepts s
  | _, _ => false

/-- Reads a demand. -/
def ofText? (s : String) : Option Demand :=
  if s = "true" then some (flag true)
  else if s = "false" then some (flag false)
  else
    match Decimal.natural? s with
    | some n => some (number n)
    | none => if Decimal.isNumeral s then some unmet else (Pattern.ofText? s).map text

end Demand

/-- A value that there must be, and perhaps what it must be. -/
structure Field where
  name : String
  demand : Option Demand := none
deriving DecidableEq

/-- What is let through of some sources, or in some spans of theirs. -/
structure Rule where
  /-- What the name of the source begins with. -/
  start : Option String := none
  /-- The name of the span. -/
  span : Option String := none
  /-- The values of the span, or of the event if the rule is for no span. -/
  fields : List Field := []
  threshold : Threshold
deriving DecidableEq

namespace Rule

/-- Whether a rule lets events through by themselves. -/
def isPlain (r : Rule) : Bool := r.span.isNone && r.fields.all fun f => f.demand.isNone

/-- Whether a rule lets events through within spans. -/
def isForSpans (r : Rule) : Bool := r.span.isSome || !r.fields.isEmpty

/-- Whether a source is among those of a rule. -/
def isAbout (r : Rule) (s : Source) : Bool :=
  match r.start with
  | none => true
  | some start => start.toList.isPrefixOf s.name.toList

/-- Whether each field of a rule has its name among some. -/
def knows (r : Rule) (names : List String) : Bool := r.fields.all fun f => names.contains f.name

/-- Whether a rule concerns a span of this name, with values of these names. -/
def concerns (r : Rule) (s : Span) : Bool :=
  r.isAbout s.source && (r.span = none || r.span = some s.name) && r.knows (s.values.map Prod.fst)

/-- Whether the values of a span are as a rule demands. -/
def isMet (r : Rule) (s : Span) : Bool :=
  r.fields.all fun f =>
    match f.demand with
    | none => true
    | some demand => s.values.any fun v => v.1 = f.name && demand.holds v.2

/-- Whether two rules differ at most in how much they let through. -/
def isLike (r q : Rule) : Bool := r.start = q.start && r.span = q.span && r.fields = q.fields

/-- Whether a plain rule is at least as specific as another one: by the length of the beginning,
then by the number of fields, then by their names. -/
def outranks (r q : Rule) : Bool :=
  let size (r : Rule) := (r.start.map fun s => s.utf8ByteSize + 1).getD 0
  let names (r : Rule) := r.fields.map Field.name
  if size r ≠ size q then size q < size r
  else if r.fields.length ≠ q.fields.length then q.fields.length < r.fields.length
  else !decide (names r < names q)

/-- The text of a plain rule without fields. -/
def text (r : Rule) : String :=
  match r.start with
  | none => r.threshold.name
  | some start => start ++ "=" ++ r.threshold.name

/-- Reads the fields in braces. -/
def fields? (s : String) : Option (List Field) := do
  let parts := Text.split '=' s
  if s = "" then none
  let name := parts.headD ""
  match parts.drop 1 with
  | [] => return [⟨name, none⟩]
  | value :: _ => return [⟨name, some (← Demand.ofText? value)⟩]

/-- Reads the threshold behind an equals sign; everything is let through if nothing is there. -/
def threshold? (cs : List Char) : Option Threshold :=
  if cs.isEmpty then some (some .trace) else Threshold.ofText? (String.ofList cs)

/-- Reads the end of a rule for spans: nothing, or an equals sign and a threshold. -/
def ending? (seen cs : List Char) : Option Threshold :=
  match seen with
  | [] => some (some .trace)
  | '=' :: _ => threshold? (cs.drop 1)
  | _ => none

/-- Reads the name of a span, perhaps with a field in braces, up to a closing bracket, and the end
of the rule. -/
def ofSpan? (start : Option String) (seen cs : List Char) : Option Rule := do
  let length := (seen.takeWhile fun c => c ≠ ']' && c ≠ '\x7b').length
  let name := String.ofList (cs.take length)
  match seen.drop length with
  | ']' :: rest =>
    return { start, span := some name, threshold := ← ending? rest (cs.drop (length + 1)) }
  | '\x7b' :: rest =>
    let size := (rest.takeWhile (· ≠ '\x7d')).length
    let fields ← fields? (String.ofList ((cs.drop (length + 1)).take size))
    match rest.drop size with
    | '\x7d' :: ']' :: rest =>
      let threshold ← ending? rest (cs.drop (length + size + 3))
      return { start, span := if name = "" then none else some name, fields, threshold }
    | _ => none
  | _ => none

/-- Reads a rule: a threshold, or the beginning of a name with or without a threshold, or a span
behind such a beginning or alone.  Its marks are found in the text without the blanks around it, and
what is between them is taken from the same places of the text with these blanks. -/
def ofText? (s : String) : Option Rule :=
  let cs := s.toList
  let seen := (Text.trim s).toList
  let begins (c : Char) : Bool := c = '[' || c = '-' || c = ':' || c = '_' || Text.isLetter c
  let length := (seen.takeWhile fun c => c ≠ '=' && c ≠ '[').length
  let start := String.ofList (cs.take length)
  if !seen.head?.any begins then none
  else
    match seen.drop length with
    | [] =>
      match Threshold.ofText? s with
      | some t => some { threshold := t }
      | none => some { start := some s, threshold := some .trace }
    | '[' :: rest => ofSpan? (if length = 0 then none else some start) rest (cs.drop (length + 1))
    | _ => (threshold? (cs.drop (length + 1))).map fun t => { start := some start, threshold := t }

end Rule

/-- The rules of a filter. -/
abbrev Filter := List Rule

namespace Filter

/-- The same threshold for every part of the program, and warnings from elsewhere. -/
def standard (t : Threshold) : Filter :=
  { threshold := some .warn } ::
    Source.packages.map fun package => { start := some package, threshold := t }

/-- The text of a filter of plain rules. -/
def text (f : Filter) : String := ",".intercalate (f.map Rule.text)

/-- Reads a filter; one without rules lets nothing through. -/
def ofText? (s : String) : Option Filter :=
  ((Text.split ',' s).filter (· ≠ "")).mapM Rule.ofText?

/-- The highest rank that rules let through. -/
def reach (rules : List Rule) : Nat := rules.foldl (fun n r => max n r.threshold.rank) 0

/-- The rules for spans, without those that a later one like them replaces. -/
def spanRules (f : Filter) : List Rule :=
  let rec last : List Rule → List Rule
    | [] => []
    | r :: rs => if rs.any r.isLike then last rs else r :: last rs
  last (f.filter Rule.isForSpans)

/-- The highest rank of anything that a filter looks at.  One that demands values looks at
everything. -/
def horizon (f : Filter) : Nat :=
  if f.any fun r => r.fields.any fun field => field.demand.isSome then Level.trace.rank else reach f

/-- The most specific of the plain rules that satisfy a condition. -/
def best (f : Filter) (p : Rule → Bool) : Option Rule :=
  ((f.filter Rule.isPlain).filter p).foldl (fun best r =>
    match best with
    | some b => if r.outranks b then some r else some b
    | none => some r) none

/-- Whether the plain rules let an event through. -/
def admitsPlainly (f : Filter) (e : Event) : Bool :=
  match f.best fun r => r.isAbout e.source && r.knows ("message" :: e.values.map Prod.fst) with
  | some r => r.threshold.admits e.level
  | none => false

/-- How much the rules for spans let through within a span, if one of them is about it. -/
def within? (f : Filter) (s : Span) : Option Threshold :=
  let rules := f.spanRules.filter fun r => r.concerns s
  if rules.isEmpty then none
  else some (.ofNat (reach (rules.filter fun r => r.isMet s)))

/-- Whether one of some open spans lets a level through. -/
def admitsWithin (f : Filter) (spans : List Span) (level : Level) : Bool :=
  spans.any fun s => (f.within? s).any fun t => t.admits level

/-- Whether a span is shown that is begun within those shown: one that a rule for spans is about
always is. -/
def admitsSpan (f : Filter) (outer : List Span) (s : Span) : Bool :=
  Level.info.rank ≤ f.horizon &&
    ((f.within? s).isSome || f.admitsWithin outer .info ||
      match f.best fun r => r.isAbout s.source with
      | some r => r.threshold.admits .info
      | none => false)

/-- The spans that are shown of some within each other, the outermost first. -/
def shown (f : Filter) (spans : List Span) : List Span :=
  spans.foldl (fun outer s => if f.admitsSpan outer s then outer ++ [s] else outer) []

/-- Whether an event in some spans is let through. -/
def admits (f : Filter) (spans : List Span) (e : Event) : Bool :=
  f.admitsPlainly e || f.admitsWithin (f.shown spans) e.level

end Filter
end Log
end MetadataAudit
