import PostingRules.Amount.Reader
import PostingRules.Rule.Basic
import PostingRules.Text.Digits
import PostingRules.Text.Split

/-!
# Parameters of a command line

* `Parameter`: a flag, an option with a value, or a place among the arguments;
* `Value`: the value of an argument;
* `UsageFault`, `UsageFault.message`: why a command line makes no sense;
* `Parameter.read`: the value that a text is;
* `Given`: the arguments that have been given.
-/

namespace PostingRules

open PostingRules.Text

namespace CommandLine

/-- What the value of an argument is. -/
inductive ValueKind
  | text
  | path
  | integer
  | amount
  | condition
  | action
  | character
  deriving DecidableEq, Repr

/-- The value of an argument. -/
inductive Value
  | text (s : String)
  | integer (n : Int)
  | amount (a : Decimal)
  | condition (k : ConditionKind)
  | action (k : ActionKind)
  | character (c : Char)
  deriving DecidableEq, Repr

/-- How an argument is written. -/
inductive Form
  /-- A name alone. -/
  | flag
  /-- A name and a value. The value may begin with a hyphen if `hyphens`. -/
  | option (k : ValueKind) (hyphens : Bool)
  /-- A value without a name, or any number of them if `many`. -/
  | position (k : ValueKind) (many : Bool)
  deriving DecidableEq, Repr

/-- A parameter. -/
structure Parameter where
  name : String
  form : Form
  deriving DecidableEq, Repr

/-- A name in capitals, with low lines for hyphens. -/
def capitals (name : String) : String :=
  String.ofList (name.toList.map fun c => if c = '-' then '_' else c.toUpper)

/-- The parameter as messages show it. -/
def Parameter.label (p : Parameter) : String :=
  match p.form with
  | .flag => "--" ++ p.name
  | .option _ _ => "--" ++ p.name ++ " <" ++ capitals p.name ++ ">"
  | .position _ false => "<" ++ capitals p.name ++ ">"
  | .position _ true => "<" ++ capitals p.name ++ ">..."

/-- Is it a place among the arguments? -/
def Parameter.isPosition (p : Parameter) : Bool :=
  match p.form with
  | .position _ _ => true
  | _ => false

/-- May its value begin with a hyphen? -/
def Parameter.hyphens (p : Parameter) : Bool :=
  match p.form with
  | .option _ h => h
  | _ => false

/-- Can it take several values? -/
def Parameter.many (p : Parameter) : Bool :=
  match p.form with
  | .position _ m => m
  | _ => false

/-! ## Faults -/

/-- Why a text is no value of the wanted kind. -/
inductive ValueFault
  | number (e : NumberError)
  | amount (s : String)
  | condition
  | action
  | noCharacter
  | manyCharacters
  deriving DecidableEq, Repr

/-- The wording of a fault of a value. -/
def ValueFault.message : ValueFault → String
  | .number e => e.message
  | .amount s => "'" ++ s ++ "' is not an amount"
  | .condition => "expected one of: " ++ separated ", " (ConditionKind.all.map ConditionKind.name)
  | .action => "expected one of: " ++ separated ", " (ActionKind.all.map ActionKind.name)
  | .noCharacter => "cannot parse char from empty string"
  | .manyCharacters => "too many characters in string"

/-- Why a command line makes no sense. -/
inductive UsageFault
  | noArguments (about : String)
  | noCommand (title : String)
  | unknownCommand (word : String)
  | unexpected (argument : String)
  | unexpectedValue (p : Parameter) (value : String)
  | missingValue (p : Parameter)
  | badValue (p : Parameter) (value : String) (e : ValueFault)
  | repeated (p : Parameter)
  | missing
  deriving DecidableEq, Repr

/-- The wording of a fault of a command line. Without any argument the program says what it is
for. -/
def UsageFault.message : UsageFault → String
  | .noArguments about => about
  | .noCommand title =>
    "error: '" ++ title ++ "' requires a subcommand but one was not provided"
  | .unknownCommand word => "error: unrecognized subcommand '" ++ word ++ "'"
  | .unexpected argument => "error: unexpected argument '" ++ argument ++ "' found"
  | .unexpectedValue p value =>
    "error: unexpected value '" ++ value ++ "' for '" ++ p.label ++
      "' found; no more were expected"
  | .missingValue p =>
    "error: a value is required for '" ++ p.label ++ "' but none was supplied"
  | .badValue p value e =>
    "error: invalid value '" ++ value ++ "' for '" ++ p.label ++ "': " ++ e.message
  | .repeated p => "error: the argument '" ++ p.label ++ "' cannot be used multiple times"
  | .missing => "error: the following required arguments were not provided:"

/-! ## Values -/

/-- The value that a text is. -/
def ValueKind.read (k : ValueKind) (s : String) : Except ValueFault Value :=
  match k with
  | .text | .path => .ok (.text s)
  | .integer =>
    match readInt s.toList with
    | .ok n => .ok (.integer n)
    | .error e => .error (.number e)
  | .amount =>
    match amountOf? s with
    | some a => .ok (.amount a)
    | none => .error (.amount s)
  | .condition =>
    match ConditionKind.ofName? s with
    | some k => .ok (.condition k)
    | none => .error .condition
  | .action =>
    match ActionKind.ofName? s with
    | some k => .ok (.action k)
    | none => .error .action
  | .character =>
    match s.toList with
    | [] => .error .noCharacter
    | [c] => .ok (.character c)
    | _ => .error .manyCharacters

/-- The value of a parameter that a text is. A path is not empty. -/
def Parameter.read (p : Parameter) (s : String) : Except UsageFault Value :=
  match p.form with
  | .flag => .error (.unexpectedValue p s)
  | .option k _ | .position k _ =>
    if k = .path ∧ s.isEmpty then .error (.missingValue p)
    else
      match k.read s with
      | .ok v => .ok v
      | .error e => .error (.badValue p s e)

/-! ## Given arguments -/

/-- The arguments that have been given: names with their values. -/
abbrev Given := List (String × List Value)

namespace Given

/-- Has the argument been given? -/
def has (g : Given) (name : String) : Bool := (g.lookup name).isSome

/-- The first value of an argument. -/
def value? (g : Given) (name : String) : Option Value := (g.lookup name).bind List.head?

/-- The text that is given for an argument. -/
def text? (g : Given) (name : String) : Option String :=
  match g.value? name with
  | some (.text s) => some s
  | _ => none

/-- The texts that are given for an argument at all its places. -/
def texts (g : Given) (name : String) : List String :=
  (g.filter (·.1 = name)).flatMap fun a => a.2.filterMap fun
    | .text s => some s
    | _ => none

/-- The integer that is given for an argument. -/
def integer? (g : Given) (name : String) : Option Int :=
  match g.value? name with
  | some (.integer n) => some n
  | _ => none

/-- The amount that is given for an argument. -/
def amount? (g : Given) (name : String) : Option Decimal :=
  match g.value? name with
  | some (.amount a) => some a
  | _ => none

/-- The kind of condition that is given for an argument. -/
def condition? (g : Given) (name : String) : Option ConditionKind :=
  match g.value? name with
  | some (.condition k) => some k
  | _ => none

/-- The kind of action that is given for an argument. -/
def action? (g : Given) (name : String) : Option ActionKind :=
  match g.value? name with
  | some (.action k) => some k
  | _ => none

/-- The character that is given for an argument. -/
def character? (g : Given) (name : String) : Option Char :=
  match g.value? name with
  | some (.character c) => some c
  | _ => none

end Given

end CommandLine

end PostingRules
