import PostingRules.Decimal.Basic

/-!
# Rules and transactions

A rule has a condition on a bank transaction and an action that it recommends where the condition
holds.

* `ConditionKind`, `ActionKind`: the kinds of both, with their names;
* `Transaction`, `Rule`;
* `Evaluation`: a rule that matched, with its confidence.
-/

namespace PostingRules

/-- How the value of a condition is compared with a transaction. -/
inductive ConditionKind
  | contains
  | equals
  | startsWith
  | endsWith
  | regex
  | amountGt
  | amountLt
  | amountRange
  deriving DecidableEq, Repr

namespace ConditionKind

/-- Every kind of condition. -/
def all : List ConditionKind :=
  [contains, equals, startsWith, endsWith, regex, amountGt, amountLt, amountRange]

/-- The name of a kind of condition. -/
def name : ConditionKind → String
  | contains => "contains"
  | equals => "equals"
  | startsWith => "starts_with"
  | endsWith => "ends_with"
  | regex => "regex"
  | amountGt => "amount_gt"
  | amountLt => "amount_lt"
  | amountRange => "amount_range"

/-- The kind of condition of a name. -/
def ofName? (s : String) : Option ConditionKind := all.find? (·.name == s)

theorem ofName?_name (k : ConditionKind) : ofName? k.name = some k := by cases k <;> rfl

end ConditionKind

/-- What a rule recommends. -/
inductive ActionKind
  | suggestTemplate
  | suggestAccount
  | autoBook
  deriving DecidableEq, Repr

namespace ActionKind

/-- Every kind of action. -/
def all : List ActionKind := [suggestTemplate, suggestAccount, autoBook]

/-- The name of a kind of action. -/
def name : ActionKind → String
  | suggestTemplate => "suggest_template"
  | suggestAccount => "suggest_account"
  | autoBook => "auto_book"

/-- The kind of action of a name. -/
def ofName? (s : String) : Option ActionKind := all.find? (·.name == s)

theorem ofName?_name (k : ActionKind) : ofName? k.name = some k := by cases k <;> rfl

end ActionKind

/-- A bank transaction: its text and its amount, negative for money out. -/
structure Transaction where
  description : String
  amount : Decimal
  deriving DecidableEq, Repr

/-- A rule as matching sees it. -/
structure Rule where
  id : Int
  name : String
  priority : Int
  active : Bool
  condition : ConditionKind
  value : String
  action : ActionKind
  target : String
  deriving DecidableEq, Repr

/-- A rule that matched a transaction, with the confidence of the match. -/
structure Evaluation where
  ruleId : Int
  ruleName : String
  action : ActionKind
  target : String
  priority : Int
  confidence : Nat
  deriving DecidableEq, Repr

end PostingRules
