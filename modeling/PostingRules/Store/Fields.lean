import PostingRules.Store.Basic

/-!
# The fields of a rule

* `NewRule`, `RuleUpdate`: a rule to be stored, and a change of some fields;
* `checkFields`, `checkPriority`: what the fields of a rule must be;
* `RuleUpdate.onto`: a change laid over a rule.
-/

namespace PostingRules

open PostingRules.Text

/-- A rule to be stored. Without a priority it is placed above all others. -/
structure NewRule where
  name : String
  description : Option String
  priority : Option Int
  active : Bool
  condition : ConditionKind
  value : String
  action : ActionKind
  target : String
  deriving DecidableEq, Repr

/-- A change of some fields. A description that is given as `none` is cleared. -/
structure RuleUpdate where
  name : Option String := none
  description : Option (Option String) := none
  priority : Option Int := none
  active : Option Bool := none
  condition : Option ConditionKind := none
  value : Option String := none
  action : Option ActionKind := none
  target : Option String := none
  deriving DecidableEq, Repr

/-- The longest name, in characters. -/
def maxNameLength : Nat := 100

/-- The longest description, in characters. -/
def maxDescriptionLength : Nat := 500

/-- A name is not blank and not too long, a description is not too long, and neither the value nor
the target is empty. -/
def checkFields (name : String) (description : Option String) (value target : String) :
    Except FieldFault Unit :=
  if allBlank name ∨ maxNameLength < name.length then .error .name
  else if description.any fun d => maxDescriptionLength < d.length then .error .description
  else if value.isEmpty then .error .emptyValue
  else if target.isEmpty then .error .emptyTarget
  else .ok ()

/-- A priority is not negative. -/
def checkPriority (p : Int) : Except FieldFault Unit :=
  if p < 0 then .error (.negativePriority p) else .ok ()

/-- A rule with the fields of a change in the place of its own. -/
def RuleUpdate.onto (u : RuleUpdate) (r : StoredRule) : StoredRule :=
  { r with
    name := u.name.getD r.name
    description := u.description.getD r.description
    priority := u.priority.getD r.priority
    active := u.active.getD r.active
    condition := u.condition.getD r.condition
    value := u.value.getD r.value
    action := u.action.getD r.action
    target := u.target.getD r.target }

/-- What the fields of a rule must be. -/
def StoredRule.check (r : StoredRule) : Except FieldFault Unit := do
  checkFields r.name r.description r.value r.target
  checkPriority r.priority

/-- What the fields of a new rule must be. -/
def NewRule.check (r : NewRule) : Except FieldFault Unit := do
  checkFields r.name r.description r.value r.target
  match r.priority with
  | some p => checkPriority p
  | none => .ok ()

end PostingRules
