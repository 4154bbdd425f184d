import PostingRules.Confidence.Score
import PostingRules.Rule.Condition

/-!
# Matching a transaction against rules

* `maxPriority?`: the highest priority of some rules;
* `Match`: a rule that matched, with its confidence; `Match.before`: the order of matches;
* **`findMatches`**: the matches of a transaction, highest priority first, then highest confidence.
-/

namespace PostingRules

/-- The highest priority of some rules. -/
def maxPriority? (rs : List Rule) : Option Int := (rs.map (·.priority)).max?

/-- A rule that matched, with the confidence of the match. -/
structure Match where
  rule : Rule
  confidence : Nat
  deriving DecidableEq, Repr

/-- May the match `a` stand before `b`? A higher priority stands first, then a higher confidence. -/
def Match.before (a b : Match) : Bool :=
  b.rule.priority < a.rule.priority ||
    (a.rule.priority = b.rule.priority && b.confidence ≤ a.confidence)

/-- The match as an evaluation. -/
def Match.evaluation (m : Match) : Evaluation where
  ruleId := m.rule.id
  ruleName := m.rule.name
  action := m.rule.action
  target := m.rule.target
  priority := m.rule.priority
  confidence := m.confidence

/-- The match of a rule where `top` is the highest priority of an active rule. -/
def Rule.matchAt (r : Rule) (top : Int) : Match := ⟨r, score r.condition r.priority top⟩

/-- **The matches of a transaction** among the active rules, highest priority first, then highest
confidence; equal ones keep their order. -/
def findMatches (rs : List Rule) (t : Transaction) : List Match :=
  let active := rs.filter (·.active)
  match maxPriority? active with
  | none => []
  | some top => ((active.filter (·.matches t)).map (·.matchAt top)).mergeSort Match.before

/-- The matches of a transaction as evaluations. -/
def evaluations (rs : List Rule) (t : Transaction) : List Evaluation :=
  (findMatches rs t).map Match.evaluation

end PostingRules
