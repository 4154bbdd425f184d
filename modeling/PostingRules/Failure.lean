import PostingRules.Disk.Basic
import PostingRules.Statement.Basic
import PostingRules.Store.Fields

/-!
# Failures

* `FieldFault.message`, `StoreFault.message`, `Statement.Fault.message`: the wording of single faults;
* `Failure`: why the program cannot do what it was told;
* **`Failure.message`**: the wording of a failure.
-/

namespace PostingRules

/-- The wording of what is wrong with the fields of a rule. -/
def FieldFault.message : FieldFault → String
  | .name => "name must be 1-" ++ toString maxNameLength ++ " characters"
  | .description =>
    "description must be at most " ++ toString maxDescriptionLength ++ " characters"
  | .emptyValue => "condition value must not be empty"
  | .emptyTarget => "action value must not be empty"
  | .negativePriority p => "priority must be non-negative, got " ++ toString p

/-- The place of a column in a row, and its name. -/
def NumberColumn.text : NumberColumn → String
  | .priority => "index: 4, name: priority"
  | .usageCount => "index: 10, name: usage_count"

/-- The wording of a fault of the table as such. -/
def databaseMessage (text : String) : String := "Database error: " ++ text

/-- The wording of a fault of an operation on the table. -/
def StoreFault.message : StoreFault → String
  | .noRule id => "No rule with ID " ++ toString id
  | .field f => "Invalid rule: " ++ f.message
  | .unknownCondition name => "Unknown condition type: " ++ name
  | .unknownAction name => "Unknown action type: " ++ name
  | .notAnInteger c => databaseMessage ("Invalid column type Real at " ++ c.text)
  | .refusedPriority => databaseMessage "CHECK constraint failed: priority >= 0"

/-- The wording of a fault of a statement. -/
def Statement.Fault.message : Statement.Fault → String
  | .record e => "CSV error: " ++ e.message
  | .noHeader => "no header row with description and amount columns"

/-- Why the program cannot do what it was told. -/
inductive Failure
  /-- An operation on the rules failed. -/
  | store (f : StoreFault)
  /-- The table of rules cannot be opened. -/
  | table (f : TableFault)
  /-- A file or directory cannot be used. -/
  | disk (f : DiskFault)
  /-- A file can be opened as a statement but not be read. -/
  | unreadable (f : DiskFault)
  /-- A statement makes no sense. -/
  | statement (f : Statement.Fault)
  /-- A text that should give a rule its priority does not. -/
  | assignment (text : String)
  /-- A separator of fields is not a single byte. -/
  | delimiter (c : Char)
  deriving DecidableEq, Repr

/-- **The wording of a failure.** -/
def Failure.message : Failure → String
  | .store f => f.message
  | .table f => databaseMessage f.message
  | .disk f => "IO error: " ++ f.message
  | .unreadable f => "CSV error: " ++ f.message
  | .statement f => f.message
  | .assignment text => "expected ID=PRIORITY, got '" ++ text ++ "'"
  | .delimiter c => "delimiter must be a single ASCII character, got '" ++ c.toString ++ "'"

end PostingRules
