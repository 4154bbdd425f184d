import PostingRules.Store.Fields

/-!
# Commands

* `Command`: what the program can be told to do;
* `Invocation`: a command with the place of the rules and the workspace, where they are given.
-/

namespace PostingRules

/-- What the program can be told to do. -/
inductive Command
  /-- Choose a data directory and make the table of rules. -/
  | init (dataDir : Option String)
  | add (r : NewRule)
  /-- List the rules, those that are switched off too if `all`. -/
  | list (all : Bool)
  | update (id : Int) (u : RuleUpdate)
  | setActive (id : Int) (active : Bool)
  | delete (id : Int)
  /-- Set priorities, each written as `ID=PRIORITY`. -/
  | reorder (assignments : List String)
  | recordMatch (id : Int)
  /-- Try a condition on a transaction without any rule. -/
  | test (k : ConditionKind) (value : String) (t : Transaction)
  /-- Match a transaction, and count the rule that is acted on as used if `record`. -/
  | evaluate (t : Transaction) (record : Bool)
  /-- Match every transaction of a statement. -/
  | batch (file : String) (delimiter : Char)
  deriving DecidableEq, Repr

/-- A command, and where its rules are if the settings are not to say so. -/
structure Invocation where
  database : Option String
  workspace : Option String
  command : Command
  deriving DecidableEq, Repr

end PostingRules
