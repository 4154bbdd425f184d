import PostingRules.Confidence.Binary64
import PostingRules.Rule.Basic

/-!
# The confidence of a match

The priority of a rule, relative to the highest priority among the active rules, is mapped onto 40
to 100 and weighed with the specificity of the condition.

* `ConditionKind.percent`, `ConditionKind.specificity`: how narrow a match of each kind tends to be;
* `baseScore`: the share of the priority;
* **`score`**: the confidence, from 0 to 100.
-/

namespace PostingRules

open Binary64

/-- How narrow a match of this kind tends to be, in per cent of an equal text. -/
def ConditionKind.percent : ConditionKind → Nat
  | .equals => 100
  | .regex => 95
  | .startsWith | .endsWith => 85
  | .amountRange => 80
  | .contains => 75
  | .amountGt | .amountLt => 70

/-- The percentage as a weight, with 53 significant bits. -/
def ConditionKind.specificity (k : ConditionKind) : Rat := nearest (mkRat k.percent 100)

/-- The share of a priority: 40 for none, 100 for the highest, and 70 where no rule has one. -/
def baseScore (priority maxPriority : Int) : Rat :=
  if 0 < maxPriority then
    nearest (40 + nearest (nearest (nearest priority / nearest maxPriority) * 60))
  else 70

/-- **The confidence of a match**: the share of the priority times the specificity, rounded and kept
between 0 and 100. -/
def score (k : ConditionKind) (priority maxPriority : Int) : Nat :=
  let s := roundHalfAway (nearest (baseScore priority maxPriority * k.specificity))
  (max 0 (min 100 s)).toNat

end PostingRules
