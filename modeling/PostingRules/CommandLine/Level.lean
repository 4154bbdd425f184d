import PostingRules.CommandLine.Parameter

/-!
# Reading arguments

A command line is read level by level: the arguments of a level, and a word that leads to the next
one. A value is looked at when the argument behind it begins, so that of two faults the one found
first need not be the one further left.

* `Shape`, `shape`: what the hyphens of an argument say;
* `Level`: the words and the parameters of a level;
* `Progress`, `Progress.step`: what has been read at a level, and one argument;
* **`Level.read`**: the arguments up to a word, the word, and those behind it.
-/

namespace PostingRules.CommandLine

/-- What the hyphens of an argument say. -/
inductive Shape
  /-- A word or a value. -/
  | plain
  /-- Only values follow. -/
  | stop
  /-- The name of a parameter, with a value if there is an equals sign. -/
  | long (name : String) (value : Option String)
  /-- A name of one character. No parameter has one. -/
  | short (c : Char)
  deriving DecidableEq, Repr

/-- The name and the value behind two hyphens. -/
def nameAndValue (cs : List Char) : Shape :=
  match cs.dropWhile (· != '=') with
  | [] => .long (String.ofList cs) none
  | _ :: value => .long (String.ofList (cs.takeWhile (· != '='))) (some (String.ofList value))

/-- What the hyphens of an argument say. A hyphen alone is a value. -/
def shape (arg : String) : Shape :=
  match arg.toList with
  | ['-', '-'] => .stop
  | '-' :: '-' :: cs => nameAndValue cs
  | '-' :: c :: _ => .short c
  | _ => .plain

/-- The words of a level, what they lead to, and its parameters. -/
structure Level (α : Type) where
  title : String
  about : String
  words : List (String × α)
  parameters : List Parameter

/-- The parameter of a name. -/
def Level.named? {α : Type} (l : Level α) (name : String) : Option Parameter :=
  l.parameters.find? fun p => !p.isPosition && p.name = name

/-- The places among the arguments, in order. -/
def Level.positions {α : Type} (l : Level α) : List Parameter := l.parameters.filter (·.isPosition)

/-! ## Progress -/

/-- What has been read at a level: the arguments whose values have been looked at, the last one with
the texts of its values, whether only values follow, and how many places have been filled. -/
structure Progress where
  given : Given := []
  pending : Option (Parameter × List String) := none
  stopped : Bool := false
  filled : Nat := 0
  deriving DecidableEq, Repr

/-- The option that waits for its value. -/
def Progress.waiting? (s : Progress) : Option Parameter :=
  match s.pending with
  | some (p, []) => some p
  | _ => none

/-- The progress with an argument and its values. Flags have none, and all but places for many
values stand at most once. -/
def Progress.give (s : Progress) (p : Parameter) (texts : List String) :
    Except UsageFault Progress :=
  if p.form ≠ .flag ∧ texts = [] then .error (.missingValue p)
  else if !p.many && s.given.has p.name then .error (.repeated p)
  else (texts.mapM p.read).map fun vs => { s with given := s.given ++ [(p.name, vs)] }

/-- The progress with the last argument looked at. -/
def Progress.settle (s : Progress) : Except UsageFault Progress :=
  match s.pending with
  | none => .ok s
  | some (p, texts) => { s with pending := none }.give p texts

/-- A value without a name. Behind the last place there is none. -/
def Progress.place {α : Type} (l : Level α) (s : Progress) (arg : String) :
    Except UsageFault Progress :=
  match l.positions[s.filled]? with
  | some p =>
    let filled := if p.many then s.filled else s.filled + 1
    match s.pending with
    | some (q, texts) =>
      if p.many && p = q then .ok { s with pending := some (p, texts ++ [arg]) }
      else s.settle.map fun s => { s with pending := some (p, [arg]), filled := filled }
    | none => .ok { s with pending := some (p, [arg]), filled := filled }
  | none =>
    if l.words.isEmpty || (s.stopped && (l.words.lookup arg).isSome) then .error (.unexpected arg)
    else .error (.unknownCommand arg)

/-- A name of a parameter, with a value or without. -/
def Progress.name {α : Type} (l : Level α) (s : Progress) (name : String) (value : Option String) :
    Except UsageFault Progress :=
  match l.named? name with
  | none => .error (.unexpected ("--" ++ name))
  | some p =>
    match p.form, value with
    | .flag, some v => .error (.unexpectedValue p v)
    | .flag, none => s.settle.bind fun s => s.give p []
    | _, some v => s.settle.bind fun s => s.give p [v]
    | _, none => s.settle.map fun s => { s with pending := some (p, []) }

/-- One argument. -/
def Progress.step {α : Type} (l : Level α) (s : Progress) (arg : String) :
    Except UsageFault Progress :=
  if s.stopped then s.place l arg
  else
    match s.waiting?, shape arg with
    | some p, sh =>
      if p.hyphens || sh = .plain then .ok { s with pending := some (p, [arg]) }
      else
        match sh with
        | .long name value => s.name l name value
        | .short c => .error (.unexpected ("-" ++ c.toString))
        | _ => .ok { s with stopped := true }
    | none, .plain => s.place l arg
    | none, .stop => .ok { s with stopped := true }
    | none, .long name value => s.name l name value
    | none, .short c => .error (.unexpected ("-" ++ c.toString))

/-! ## Levels -/

/-- **The arguments of a level** up to a word, what the word leads to, and the arguments behind. -/
def Level.read {α : Type} (l : Level α) :
    Progress → List String → Except UsageFault (Progress × Option (α × List String))
  | s, [] => .ok (s, none)
  | s, arg :: args =>
    let word := if s.stopped || s.waiting?.isSome then none else l.words.lookup arg
    match word with
    | some a => .ok (s, some (a, args))
    | none =>
      match s.step l arg with
      | .error e => .error e
      | .ok s => l.read s args

/-- All arguments of a level. -/
def Progress.finish (s : Progress) : Except UsageFault Given := s.settle.map (·.given)

/-- Why a level without a word makes no sense. -/
def Level.incomplete {α : Type} (l : Level α) (g : Given) : UsageFault :=
  if g.isEmpty then .noArguments l.about else .noCommand l.title

end PostingRules.CommandLine
