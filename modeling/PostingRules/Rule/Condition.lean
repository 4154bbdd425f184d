import PostingRules.Decimal.Reader
import PostingRules.Pattern.Guard
import PostingRules.Pattern.Reader
import PostingRules.Pattern.Search
import PostingRules.Rule.Basic
import PostingRules.Text.Blank
import PostingRules.Text.Lowercase

/-!
# Conditions

A condition whose value makes no sense holds of no transaction, so that one broken rule never stands
in the way of the others.

* `isInfixOf`: does a text occur in another?
* `threshold?`, `bounds?`: the value of a condition on amounts;
* `regexHolds`: does a pattern match a text?
* **`ConditionKind.holds`**: does a condition hold of a transaction?
* `Unmatchable`, **`ConditionKind.check`**: why a condition can never hold.
-/

namespace PostingRules

open PostingRules.Text

/-! ## Values -/

/-- Does the text `v` occur in a text? -/
def isInfixOf (v : List Char) : List Char → Bool
  | [] => v.isEmpty
  | c :: cs => v.isPrefixOf (c :: cs) || isInfixOf v cs

/-- The amount of a condition value. -/
def thresholdList? (cs : List Char) : Option Decimal := Decimal.read (trimList cs)

/-- The amount of a condition value. -/
def threshold? (v : String) : Option Decimal := thresholdList? v.toList

/-- The least and the greatest amount of a range, written with a comma between them. -/
def bounds? (v : String) : Option (Decimal × Decimal) :=
  match v.toList.dropWhile (· != ',') with
  | [] => none
  | _ :: most => do
    let a ← thresholdList? (v.toList.takeWhile (· != ','))
    let b ← thresholdList? most
    some (a, b)

/-- Does a pattern that is not refused, and valid, match a text? -/
def regexHolds (pattern text : String) : Bool :=
  Guard.isSafe pattern.toList &&
    match Pattern.read? pattern.toList with
    | some p => p.found text.toList
    | none => false

/-! ## Conditions -/

/-- **Does a condition hold of a transaction?** Texts are compared without regard to case, the
limits of `amount_gt` and `amount_lt` are excluded and those of a range included. -/
def ConditionKind.holds (k : ConditionKind) (v : String) (t : Transaction) : Bool :=
  match k with
  | .contains => isInfixOf (lowerList v.toList) (lowerList t.description.toList)
  | .equals => lowerList t.description.toList = lowerList v.toList
  | .startsWith => (lowerList v.toList).isPrefixOf (lowerList t.description.toList)
  | .endsWith => (lowerList v.toList).isSuffixOf (lowerList t.description.toList)
  | .regex => regexHolds v t.description
  | .amountGt => (threshold? v).any fun a => a < t.amount
  | .amountLt => (threshold? v).any fun a => t.amount < a
  | .amountRange => (bounds? v).any fun p => p.1 ≤ t.amount && t.amount ≤ p.2

/-- Does the rule's condition hold of a transaction? -/
def Rule.matches (r : Rule) (t : Transaction) : Bool := r.condition.holds r.value t

/-- Why a condition can never hold. -/
inductive Unmatchable
  | unsafePattern (reason : Guard.Reason)
  | invalidPattern
  | notAnAmount (v : String)
  | notARange (v : String)
  | emptyRange (least most : Decimal)
  deriving DecidableEq, Repr

/-- The wording of a reason why a condition can never hold. -/
def Unmatchable.message : Unmatchable → String
  | .unsafePattern r => "unsafe regex (" ++ r.message ++ ")"
  | .invalidPattern => "invalid regex: the pattern cannot be read"
  | .notAnAmount v => "'" ++ v ++ "' is not a decimal amount"
  | .notARange v => "'" ++ v ++ "' is not a range of the form <min>,<max>"
  | .emptyRange a b => "range minimum " ++ a.text ++ " exceeds maximum " ++ b.text

/-- **Why a condition can never hold**, if it cannot. -/
def ConditionKind.check (k : ConditionKind) (v : String) : Except Unmatchable Unit :=
  match k with
  | .regex =>
    match Guard.rejection? v.toList with
    | some r => .error (.unsafePattern r)
    | none => if (Pattern.read? v.toList).isSome then .ok () else .error .invalidPattern
  | .amountGt | .amountLt => if (threshold? v).isSome then .ok () else .error (.notAnAmount v)
  | .amountRange =>
    match bounds? v with
    | none => .error (.notARange v)
    | some (a, b) => if b < a then .error (.emptyRange a b) else .ok ()
  | .contains | .equals | .startsWith | .endsWith => .ok ()

end PostingRules
