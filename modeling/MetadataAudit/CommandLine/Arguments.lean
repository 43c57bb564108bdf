/-! # Arguments

The arguments of a command are options, operands, and perhaps the name of a command below it, with
which its own arguments begin.  A long option begins with two dashes and may carry its value behind
an equals sign; short options of one letter may be written together behind one dash.  After two
lone dashes everything is an operand.
-/
namespace MetadataAudit
namespace Arguments

/-- How an option is given. -/
inductive Use where
  /-- Without a value, at most once. -/
  | switch
  /-- Without a value, any number of times. -/
  | count
  /-- With a value that is accepted, at most once. -/
  | value (accepts : String → Bool)
  /-- With a value, any number of times. -/
  | values
  /-- Asks for a text instead of work. -/
  | ask

/-- An option. -/
structure Flag where
  name : String
  letter : Option Char := none
  use : Use

/-- What a command takes. -/
structure Grammar where
  flags : List Flag
  /-- What each operand must be. -/
  operands : List (String → Bool) := []
  /-- The names of the commands below this one. -/
  commands : List String := []

/-- Why the arguments give no work to do. -/
inductive Stop where
  /-- They do not fit the grammar. -/
  | misuse
  /-- They ask for the text of an option or command. -/
  | asked (name : String)
deriving DecidableEq

/-- The arguments of one command: its options with their values in order, its operands, and the
command below it with the rest. -/
structure Scan where
  options : List (String × String) := []
  operands : List String := []
  below : Option (String × List String) := none
deriving DecidableEq

namespace Use

/-- Whether a value belongs to the option. -/
def takesValue : Use → Bool
  | value _ | values => true
  | _ => false

/-- Whether the option may be given once only. -/
def isSingle : Use → Bool
  | switch | value _ => true
  | _ => false

/-- Whether a value will do. -/
def accepts : Use → String → Bool
  | value accepts, v => accepts v
  | _, _ => true

end Use

namespace Scan

/-- Whether an option was given. -/
def has (s : Scan) (name : String) : Bool := s.options.any fun o => o.1 = name

/-- How many times an option was given. -/
def count (s : Scan) (name : String) : Nat := s.options.countP fun o => o.1 = name

/-- The value of an option. -/
def value? (s : Scan) (name : String) : Option String := s.options.lookup name

/-- The values of an option, in order. -/
def values (s : Scan) (name : String) : List String :=
  (s.options.filter fun o => o.1 = name).map Prod.snd

/-- Adds an option. -/
def give (s : Scan) (f : Flag) (value : String) : Except Stop Scan :=
  match f.use with
  | .ask => .error (.asked f.name)
  | _ =>
    if f.use.isSingle && s.has f.name then .error .misuse
    else if f.use.accepts value then .ok { s with options := s.options ++ [(f.name, value)] }
    else .error .misuse

/-- Adds an operand. -/
def operand (g : Grammar) (s : Scan) (value : String) : Except Stop Scan :=
  match g.operands[s.operands.length]? with
  | some accepts =>
    if accepts value then .ok { s with operands := s.operands ++ [value] } else .error .misuse
  | none => .error .misuse

end Scan

/-- A text cut at its first equals sign. -/
def cutValue : List Char → List Char × Option (List Char)
  | [] => ([], none)
  | c :: cs => if c = '=' then ([], some cs) else ((c :: (cutValue cs).1), (cutValue cs).2)

/-- A long option without its dashes; the second part waits for a value. -/
def long (g : Grammar) (s : Scan) (text : List Char) : Except Stop (Scan × Option Flag) :=
  let (name, value) := cutValue text
  match g.flags.find? fun f => f.name = String.ofList name with
  | none => .error .misuse
  | some f =>
    match f.use.takesValue, value with
    | true, some v => (s.give f (String.ofList v)).map (·, none)
    | true, none => .ok (s, some f)
    | false, none => (s.give f "").map (·, none)
    | false, some _ => .error .misuse

/-- Short options without their dash; the second part waits for a value. -/
def short (g : Grammar) (s : Scan) : List Char → Except Stop (Scan × Option Flag)
  | [] => .ok (s, none)
  | c :: cs =>
    match g.flags.find? fun f => f.letter = some c with
    | none => .error .misuse
    | some f =>
      if f.use.takesValue then
        match cs with
        | [] => .ok (s, some f)
        | '=' :: v => (s.give f (String.ofList v)).map (·, none)
        | v => (s.give f (String.ofList v)).map (·, none)
      else
        match s.give f "" with
        | .ok s => short g s cs
        | .error e => .error e

/-- Reads the operands after two lone dashes. -/
def operandsOnly (g : Grammar) (s : Scan) : List String → Except Stop Scan
  | [] => .ok s
  | a :: rest => s.operand g a >>= fun s => operandsOnly g s rest

/-- Reads arguments; `waiting` is an option whose value comes next. -/
def scan (g : Grammar) (waiting : Option Flag) (s : Scan) : List String → Except Stop Scan
  | [] => if waiting.isSome then .error .misuse else .ok s
  | a :: rest =>
    match a.toList, waiting with
    | '-' :: _ :: _, some _ => .error .misuse
    | '-' :: '-' :: [], none => operandsOnly g s rest
    | '-' :: '-' :: name, none => long g s name >>= fun (s, waiting) => scan g waiting s rest
    | '-' :: c :: letters, none =>
      short g s (c :: letters) >>= fun (s, waiting) => scan g waiting s rest
    | _, some f => s.give f a >>= fun s => scan g none s rest
    | _, none =>
      if g.commands.contains a then .ok { s with below := some (a, rest) }
      else s.operand g a >>= fun s => scan g none s rest

end Arguments
end MetadataAudit
