import PostingRules.Amount.Kronor
import PostingRules.Statement.Basic
import PostingRules.Store.Basic
import PostingRules.Text.Grid
import PostingRules.Text.Moment

/-!
# Reports

What the commands say about rules, matches and statements.

* `rulesGrid`, `evaluationsGrid`, `statementGrid`: tables;
* `suggestionLines`: what a transaction's matches suggest;
* `warnings`: what is wrong with a rule that can be stored all the same;
* `verdict`: how a condition fares with a transaction.
-/

namespace PostingRules.Report

open PostingRules.Text

/-! ## Rules -/

/-- The header of a table of rules. -/
def ruleHeader : List String :=
  ["ID", "Name", "Condition", "Value", "Action", "Target", "Priority", "Used", "Last match"]

/-- The cells of a rule. -/
def ruleCells (r : StoredRule) : List String :=
  [toString r.id, r.name, r.condition.name, r.value, r.action.name, r.target, toString r.priority,
    toString r.usageCount, (r.lastMatch.map momentText).getD ""]

/-- A table of rules, with those that are switched off if `all`. -/
def rulesGrid (all : Bool) (rs : List StoredRule) : Grid :=
  if all then
    ⟨ruleHeader ++ ["Active"], rs.map fun r => ruleCells r ++ [if r.active then "yes" else "no"]⟩
  else ⟨ruleHeader, rs.map ruleCells⟩

/-- The line about a rule that has been added. -/
def addedLine (r : StoredRule) : String :=
  "Added rule " ++ toString r.id ++ ": " ++ r.condition.name ++ " '" ++ r.value ++ "' → " ++
    r.action.name ++ " " ++ r.target ++ " (priority " ++ toString r.priority ++ ")"

/-- The line about something that has been done to a rule. -/
def doneLine (what : String) (r : StoredRule) : String :=
  what ++ " rule " ++ toString r.id ++ ": " ++ r.name

/-- What is wrong with a rule that can be stored all the same: a condition that never holds, and an
account to suggest that is no number. -/
def warnings (r : StoredRule) : List String :=
  (match r.condition.check r.value with
    | .ok () => []
    | .error e => ["Warning: rule " ++ toString r.id ++ " will never match: " ++ e.message]) ++
  (if r.action = .suggestAccount ∧ account? r.target = none then
    ["Warning: '" ++ r.target ++
      "' is not an account number; this rule will not suggest an account"]
  else [])

/-! ## Matches -/

/-- The header of a table of matches. -/
def evaluationHeader : List String :=
  ["Rule", "Name", "Action", "Target", "Priority", "Confidence"]

/-- A confidence as a percentage. -/
def percentText (n : Nat) : String := toString n ++ "%"

/-- The cells of a match. -/
def evaluationCells (e : Evaluation) : List String :=
  [toString e.ruleId, e.ruleName, e.action.name, e.target, toString e.priority,
    percentText e.confidence]

/-- A table of matches. -/
def evaluationsGrid (es : List Evaluation) : Grid := ⟨evaluationHeader, es.map evaluationCells⟩

/-- Texts with a comma and a blank between them. -/
def listing (ss : List String) : String := separated ", " ss

/-- The lines about suggestions, one for each kind of which there are any. -/
def suggestionLines (s : Suggestions Evaluation) : List String :=
  (if s.templates.isEmpty then [] else ["Templates: " ++ listing s.templates]) ++
  (if s.accounts.isEmpty then [] else ["Accounts:  " ++ listing (s.accounts.map toString)]) ++
  (match s.autoBook with
    | none => []
    | some e =>
      ["Auto-book: " ++ e.target ++ " (rule " ++ toString e.ruleId ++ ", " ++
        percentText e.confidence ++ " confidence)"])

/-- The line about a transaction. -/
def transactionLine (t : Transaction) : String := t.description ++ " (" ++ kronor t.amount ++ ")"

/-- How a condition fares with a transaction. -/
def verdict (k : ConditionKind) (value : String) (t : Transaction) : String :=
  match k.check value with
  | .error e => "Never matches: " ++ e.message
  | .ok () => (if k.holds value t then "Match: " else "No match: ") ++ k.name ++ " '" ++ value ++ "'"

/-! ## Statements -/

/-- The header of a table of a statement. -/
def statementHeader : List String :=
  ["Line", "Description", "Amount", "Auto-book", "Accounts", "Templates"]

/-- The cells of a transaction of a statement. -/
def statementCells (r : Statement.Row) : List String :=
  [toString r.line, r.description,
    match r.amount with
    | .ok a => kronor a
    | .error text => Statement.unreadable text,
    (r.suggestions.autoBook.map (·.target)).getD "",
    listing (r.suggestions.accounts.map toString), listing r.suggestions.templates]

/-- A table of a statement. -/
def statementGrid (rows : List Statement.Row) : Grid := ⟨statementHeader, rows.map statementCells⟩

/-- The line that counts the transactions with a match. -/
def matchedLine (rows : List Statement.Row) : String :=
  toString (rows.countP fun r => 0 < r.matchCount) ++ " of " ++ toString rows.length ++
    " rows matched at least one rule"

end PostingRules.Report
