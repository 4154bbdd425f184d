import PostingRules.Command.Basic
import PostingRules.CommandLine.Level

/-!
# The command line

* `globals`: the options that every level has;
* `Leaf`: a command with its parameters;
* `ruleWords`, `topWords`: the commands on rules, and all others;
* **`Invocation.read`**: the invocation of a command line.
-/

namespace PostingRules

namespace CommandLine

/-- A flag. -/
def flag (name : String) : Parameter := ⟨name, .flag⟩

/-- An option whose value does not begin with a hyphen. -/
def option (name : String) (k : ValueKind) : Parameter := ⟨name, .option k false⟩

/-- An option whose value may begin with a hyphen. -/
def hyphenOption (name : String) (k : ValueKind) : Parameter := ⟨name, .option k true⟩

/-- A place for one value. -/
def position (name : String) (k : ValueKind) : Parameter := ⟨name, .position k false⟩

/-- The options that every level has: the file of the rules and the workspace. -/
def globals : List Parameter := [option "db" .path, option "workspace" .text]

/-- A command: its parameters, and what it is if none that it needs is missing. -/
structure Leaf where
  parameters : List Parameter
  command? : Given → Option Command

/-! ## Commands on rules -/

/-- Add a rule. -/
def add : Leaf where
  parameters := [position "name" .text, option "condition" .condition, hyphenOption "value" .text,
    option "action" .action, option "target" .text, option "priority" .integer,
    option "description" .text, flag "inactive"]
  command? g := do
    let name ← g.text? "name"
    let condition ← g.condition? "condition"
    let value ← g.text? "value"
    let action ← g.action? "action"
    let target ← g.text? "target"
    some (.add ⟨name, g.text? "description", g.integer? "priority", !g.has "inactive", condition,
      value, action, target⟩)

/-- List the rules. -/
def list : Leaf := ⟨[flag "all"], fun g => some (.list (g.has "all"))⟩

/-- Change fields of a rule. An empty description is none. -/
def update : Leaf where
  parameters := [position "id" .integer, option "name" .text, option "condition" .condition,
    hyphenOption "value" .text, option "action" .action, option "target" .text,
    option "priority" .integer, option "description" .text]
  command? g := do
    let id ← g.integer? "id"
    some (.update id
      { name := g.text? "name"
        description := (g.text? "description").map fun d => if d.isEmpty then none else some d
        priority := g.integer? "priority"
        condition := g.condition? "condition"
        value := g.text? "value"
        action := g.action? "action"
        target := g.text? "target" })

/-- A command on one rule. -/
def onRule (f : Int → Command) : Leaf := ⟨[position "id" .integer], fun g => (g.integer? "id").map f⟩

/-- Set several priorities. -/
def reorder : Leaf where
  parameters := [⟨"assignments", .position .text true⟩]
  command? g := if g.has "assignments" then some (.reorder (g.texts "assignments")) else none

/-- Try a condition. -/
def test : Leaf where
  parameters := [option "condition" .condition, hyphenOption "value" .text, option "text" .text,
    hyphenOption "amount" .amount]
  command? g := do
    let condition ← g.condition? "condition"
    let value ← g.text? "value"
    some (.test condition value ⟨(g.text? "text").getD "", (g.amount? "amount").getD .zero⟩)

/-- The commands on rules. -/
def ruleWords : List (String × Leaf) :=
  [("add", add), ("list", list), ("update", update),
    ("enable", onRule (.setActive · true)), ("disable", onRule (.setActive · false)),
    ("delete", onRule .delete), ("reorder", reorder), ("hit", onRule .recordMatch), ("test", test)]

/-! ## Other commands -/

/-- Choose a data directory. -/
def init : Leaf := ⟨[option "data-dir" .text], fun g => some (.init (g.text? "data-dir"))⟩

/-- Match a transaction. -/
def evaluate : Leaf where
  parameters := [position "description" .text, hyphenOption "amount" .amount, flag "record"]
  command? g := do
    let description ← g.text? "description"
    let amount ← g.amount? "amount"
    some (.evaluate ⟨description, amount⟩ (g.has "record"))

/-- Match a statement. -/
def batch : Leaf where
  parameters := [position "file" .path, option "delimiter" .character]
  command? g := do
    let file ← g.text? "file"
    some (.batch file ((g.character? "delimiter").getD ','))

/-- Where a word of the first level leads. -/
inductive Branch
  | leaf (l : Leaf)
  | rules

/-- The words of the first level. -/
def topWords : List (String × Branch) :=
  [("init", .leaf init), ("rules", .rules), ("evaluate", .leaf evaluate), ("batch", .leaf batch)]

/-! ## Levels -/

/-- The first level. -/
def top : Level Branch where
  title := "kontoregel"
  about := "Categorization rules for bank transactions: suggest templates, accounts, or auto-book."
  words := topWords
  parameters := globals

/-- The level of the commands on rules. -/
def rules : Level Leaf where
  title := "kontoregel rules"
  about := "Manage categorization rules"
  words := ruleWords
  parameters := globals

/-- The level of a command. -/
def Leaf.level (l : Leaf) : Level Empty := ⟨"", "", [], globals ++ l.parameters⟩

/-- The arguments of a command, and the command. -/
def Leaf.read (l : Leaf) (args : List String) : Except UsageFault (Given × Command) := do
  let (s, _) ← l.level.read {} args
  let g ← s.finish
  match l.command? g with
  | some c => .ok (g, c)
  | none => .error .missing

/-- The arguments of a command on rules, those of the inner level first, and the command. -/
def readRules (args : List String) : Except UsageFault (Given × Command) := do
  let (s, word) ← rules.read {} args
  match word with
  | none => .error (rules.incomplete (← s.finish))
  | some (leaf, rest) =>
    let (inner, c) ← leaf.read rest
    let outer ← s.finish
    .ok (inner ++ outer, c)

/-- Where a branch leads with the arguments behind it. -/
def Branch.read : Branch → List String → Except UsageFault (Given × Command)
  | .leaf l, args => l.read args
  | .rules, args => readRules args

end CommandLine

namespace Invocation

open CommandLine

/-- **The invocation of a command line.** An option that stands on several levels counts on the
innermost one. -/
def read (args : List String) : Except UsageFault Invocation := do
  let (s, word) ← top.read {} args
  match word with
  | none => .error (top.incomplete (← s.finish))
  | some (branch, rest) =>
    let (inner, c) ← branch.read rest
    let outer ← s.finish
    let g : Given := inner ++ outer
    .ok ⟨g.text? "db", g.text? "workspace", c⟩

end Invocation

end PostingRules
